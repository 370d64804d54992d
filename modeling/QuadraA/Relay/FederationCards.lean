import QuadraA.Relay.Federation

/-!
# Cards that a relay serves

The cards of the own agents come with a HELLO, which checks them, or with a PUBLISH_CARD, which does
not.  Those of the other relays are checked in their handshakes and in the admission probe, and not
in a later FEDERATION_WELCOME; those of their agents come with AGENT_JOINED as they are.

* `cards_authentic` — the cards of a run in which the unchecked messages carry authentic ones;
* `forged_card` — a PUBLISH_CARD with a card that nobody has signed.
-/

set_option linter.unusedSectionVars false

namespace QuadraA.Relay

open QuadraA.Lib

section

variable {W A : Type} [DecidableEq W]
variable {config : FederationConfig} {checks : CardChecks A} {selfDid : String}
variable {s s' s'' start : FederationState W A} {event : FederationEvent W A}
  {events : List (FederationEvent W A)} {relayDid : String}

/-- **A card is that of a DID**, and verifies under its key. -/
def CardChecks.Authentic (checks : CardChecks A) (did : String) (card : A) : Prop :=
  checks.did card = did ∧ checks.verifies did card = true

/-- **The condition of a step.**  The card of a PUBLISH_CARD, of an AGENT_JOINED and of a
FEDERATION_WELCOME after the handshake is authentic. -/
def AuthenticStep (config : FederationConfig) (checks : CardChecks A) (selfDid : String)
    (s : FederationState W A) (event : FederationEvent W A) (s' : FederationState W A) : Prop :=
  FederationStep config checks selfDid s event s' ∧
    (∀ did card, event = .published did (some card) → checks.Authentic did card) ∧
    (∀ ws agentDid card realm, event = .message ws (.agentJoined agentDid card realm) true →
      checks.Authentic agentDid card) ∧
    ∀ ws card socket relayDid, event = .message ws (.welcome (some card)) true →
      s.sockets ws = some socket → socket.relayDid = some relayDid → checks.Authentic relayDid card

/-- **Every card that a relay stores** under a DID is authentic. -/
structure Served (checks : CardChecks A) (s : FederationState W A) : Prop where
  registry : ∀ did card, s.registry did = some card → checks.Authentic did card
  routes : ∀ agentDid route, s.remoteAgentRoutes agentDid = some route →
    checks.Authentic agentDid route.card
  relays : ∀ relayDid relay card, s.federatedRelays relayDid = some relay →
    relay.card = some card → checks.Authentic relayDid card

/-! ### What the operations do to cards -/

/-- No card comes. -/
structure KeepsCards (s s' : FederationState W A) : Prop where
  registry : s'.registry = s.registry
  routes : ∀ agentDid route, s'.remoteAgentRoutes agentDid = some route →
    s.remoteAgentRoutes agentDid = some route
  relays : ∀ relayDid relay' card, s'.federatedRelays relayDid = some relay' →
    relay'.card = some card →
      ∃ relay, s.federatedRelays relayDid = some relay ∧ relay.card = some card

theorem KeepsCards.of_eq (hregistry : s'.registry = s.registry)
    (hrelays : s'.federatedRelays = s.federatedRelays)
    (hroutes : s'.remoteAgentRoutes = s.remoteAgentRoutes) : KeepsCards s s' :=
  ⟨hregistry, fun agentDid route hroute => by rwa [hroutes] at hroute,
    fun relayDid relay' card hrelay hcard => ⟨relay', by rwa [hrelays] at hrelay, hcard⟩⟩

theorem KeepsCards.same (h : SameEntries s s') : KeepsCards s s' :=
  .of_eq h.registry h.federatedRelays h.remoteAgentRoutes

theorem KeepsCards.trans (h : KeepsCards s s') (h' : KeepsCards s' s'') : KeepsCards s s'' := by
  refine ⟨h'.registry.trans h.registry,
    fun agentDid route hroute => h.routes agentDid route (h'.routes agentDid route hroute),
    fun relayDid relay'' card hrelay hcard => ?_⟩
  obtain ⟨relay', hrelay', hcard'⟩ := h'.relays relayDid relay'' card hrelay hcard
  exact h.relays relayDid relay' card hrelay' hcard'

variable {f : FederatedRelay W A → FederatedRelay W A} {card : A}

theorem KeepsCards.modifyRelay (s : FederationState W A) (relayDid : String)
    (hf : ∀ relay, (f relay).card = relay.card) : KeepsCards s (s.modifyRelay relayDid f) := by
  rw [FederationState.modifyRelay]
  cases hentry : s.federatedRelays relayDid with
  | none => exact .of_eq rfl rfl rfl
  | some relay =>
    refine ⟨rfl, fun _ _ hroute => hroute, fun other relay' card hrelay hcard => ?_⟩
    rcases update_apply_eq_iff.mp hrelay with ⟨rfl, hwritten⟩ | ⟨_, hrelay⟩
    · obtain rfl := Option.some.inj hwritten
      exact ⟨relay, hentry, (hf relay).symm.trans hcard⟩
    · exact ⟨relay', hrelay, hcard⟩

theorem KeepsCards.removeRemoteAgentRoutes (s : FederationState W A) (relayDid : String) :
    KeepsCards s (s.removeRemoteAgentRoutesForRelay relayDid) :=
  ⟨rfl, fun _ _ hroute => (Option.filter_eq_some_iff.mp hroute).1,
    fun _ relay' _ hrelay hcard => ⟨relay', hrelay, hcard⟩⟩

theorem KeepsCards.deleteRelay (s : FederationState W A) (relayDid : String) :
    KeepsCards s (s.deleteRelay relayDid) := by
  refine ⟨rfl, fun _ _ hroute => hroute, fun other relay' card hrelay hcard => ?_⟩
  rcases update_apply_eq_iff.mp hrelay with ⟨_, hrelay⟩ | ⟨_, hrelay⟩
  · cases hrelay
  · exact ⟨relay', hrelay, hcard⟩

theorem KeepsCards.scheduleAdmission (s : FederationState W A) (relayDid : String) (ws : W) :
    KeepsCards s (s.scheduleAdmission relayDid ws) := .of_eq rfl rfl rfl

theorem KeepsCards.clearProbationTimer (s : FederationState W A) (relayDid : String) :
    KeepsCards s (s.clearProbationTimer relayDid) := by
  rw [FederationState.clearProbationTimer]
  split
  · exact .of_eq rfl rfl rfl
  · refine KeepsCards.trans ?_ (.modifyRelay _ relayDid fun _ => rfl)
    exact .of_eq rfl rfl rfl

theorem KeepsCards.markAdmissionFailure (s : FederationState W A) (relayDid : String) (now : ℕ) :
    KeepsCards s (s.markAdmissionFailure config relayDid now) := by
  rw [FederationState.markAdmissionFailure]
  split
  · exact .of_eq rfl rfl rfl
  · refine KeepsCards.trans ?_ (.same (.closeRelaySocket _ relayDid))
    refine KeepsCards.trans ?_ (.removeRemoteAgentRoutes _ relayDid)
    refine KeepsCards.trans (KeepsCards.trans ?_ (.clearProbationTimer _ relayDid))
      (.same (.clearPendingProbe _ relayDid true))
    refine (KeepsCards.same (.recordFailure config s relayDid now)).trans ?_
    exact .modifyRelay _ relayDid fun _ => rfl

theorem KeepsCards.disconnected (s : FederationState W A) (relayDid : String) (rejected : Bool) :
    KeepsCards s
      ((((s.modifyRelay relayDid fun relay => { relay with
        connected := false, connecting := false, ws := none, admittedByPeer := false
        }).clearProbationTimer relayDid).clearPendingProbe relayDid
          rejected).removeRemoteAgentRoutesForRelay relayDid) := by
  refine KeepsCards.trans ?_ (.removeRemoteAgentRoutes _ relayDid)
  refine KeepsCards.trans (KeepsCards.trans ?_ (.clearProbationTimer _ relayDid))
    (.same (.clearPendingProbe _ relayDid rejected))
  exact .modifyRelay s relayDid fun _ => rfl

theorem KeepsCards.handleIncomingDisconnect (s : FederationState W A) (relayDid : String) :
    KeepsCards s (s.handleIncomingDisconnect relayDid) := by
  rw [FederationState.handleIncomingDisconnect]
  split
  · exact .of_eq rfl rfl rfl
  · exact .disconnected s relayDid false

theorem KeepsCards.scheduleReconnection (s : FederationState W A) (relayDid : String) :
    KeepsCards s (s.scheduleReconnection config relayDid) := by
  rw [FederationState.scheduleReconnection]
  split
  · exact .of_eq rfl rfl rfl
  · split
    · exact .of_eq rfl rfl rfl
    · split
      · exact (KeepsCards.deleteRelay s relayDid).trans (.removeRemoteAgentRoutes _ relayDid)
      · exact .modifyRelay s relayDid fun _ => rfl

theorem KeepsCards.handleRelayDisconnection (s : FederationState W A) (relayDid : String) :
    KeepsCards s (s.handleRelayDisconnection config relayDid) := by
  rw [FederationState.handleRelayDisconnection]
  split
  · exact .of_eq rfl rfl rfl
  · exact (KeepsCards.disconnected s relayDid true).trans (.scheduleReconnection _ relayDid)

theorem KeepsCards.startProbation (s : FederationState W A) (relayDid : String) (connection : W) :
    KeepsCards s (s.startProbation relayDid connection) := by
  rw [FederationState.startProbation]
  refine (KeepsCards.clearProbationTimer s relayDid).trans (KeepsCards.trans ?_
    (.modifyRelay _ relayDid ?_))
  · exact .of_eq rfl rfl rfl
  · exact fun _ => rfl

theorem KeepsCards.removeRemoteAgentRoute (s : FederationState W A) (agentDid relayDid : String) :
    KeepsCards s (s.removeRemoteAgentRoute agentDid relayDid) := by
  rw [FederationState.removeRemoteAgentRoute]
  split
  · refine ⟨rfl, fun other route hroute => ?_,
      fun _ relay' _ hrelay hcard => ⟨relay', hrelay, hcard⟩⟩
    rcases update_apply_eq_iff.mp hroute with ⟨_, hroute⟩ | ⟨_, hroute⟩
    · cases hroute
    · exact hroute
  · exact .of_eq rfl rfl rfl

/-- A card may come with the event. -/
def FederationEvent.bringsCard : FederationEvent W A → Bool
  | .registered .. | .published .. | .unregistered .. | .accepted .. | .connecting .. => true
  | .welcomed .. | .cardAccepted .. => true
  | .message _ (.welcome _) _ | .message _ (.agentJoined _ _ _) _ => true
  | _ => false

/-- **No card comes** with any other event. -/
theorem keepsCards_of_step (hstep : FederationStep config checks selfDid s event s')
    (hquiet : event.bringsCard = false) : KeepsCards s s' := by
  cases hstep with
  | handshakeRefused => exact .of_eq rfl rfl rfl
  | seedConnecting _ => exact .of_eq rfl rfl rfl
  | connectEnded => exact .modifyRelay _ _ fun _ => rfl
  | @welcomeRefused ws _ relayDid _ _ _ _ _ _ _ _ _ =>
    exact (KeepsCards.deleteRelay s relayDid).trans (.same (.closeSocket _ ws))
  | @admissionBegun task admission _ _ =>
    rw [FederationState.beginAdmission]
    split
    · exact (KeepsCards.startProbation s admission.relayDid admission.connection).trans
        (.same (.runHealthProbe _ task admission.relayDid))
    · exact .same (.endAdmission s task)
  | healthTimedOut _ _ =>
    refine KeepsCards.trans ?_ (.same (.setPhase _ _ _))
    exact .of_eq rfl rfl rfl
  | cardProbed _ _ => exact .same (.runCardProbe _ _ _)
  | cardTimedOut _ _ =>
    refine KeepsCards.trans ?_ (.same (.setPhase _ _ _))
    exact .of_eq rfl rfl rfl
  | cardRefused _ _ _ => exact .same (.setPhase _ _ _)
  | admissionFailed _ _ =>
    exact (KeepsCards.same (.endAdmission _ _)).trans (.markAdmissionFailure _ _ _)
  | probationExpired _ =>
    refine KeepsCards.trans ?_ (.markAdmissionFailure _ _ _)
    exact .of_eq rfl rfl rfl
  | @message ws socket relayDid msg _ _ _ =>
    split
    swap
    · exact .of_eq rfl rfl rfl
    cases msg with
    | welcome card => cases hquiet
    | agentJoined agentDid card realm => cases hquiet
    | admitted => exact .modifyRelay _ _ fun _ => rfl
    | agentLeft agentDid => exact .removeRemoteAgentRoute s agentDid relayDid
    | healthResponse => exact .same (.handleFederationHealthResponse s relayDid)
    | card did card => exact .same (.handleFederationCard s relayDid did card)
    | _ => exact .of_eq rfl rfl rfl
  | closing => exact .same (.closeSocket _ _)
  | @closed ws next _ hnext =>
    have hclosed : KeepsCards s next := by
      rw [hnext]
      exact .of_eq rfl rfl rfl
    split
    · exact hclosed
    · split
      · exact hclosed
      · split
        · exact hclosed.trans (.handleIncomingDisconnect _ _)
        · exact hclosed.trans (.handleRelayDisconnection _ _)
  | stale => exact (KeepsCards.same (.closeRelaySocket _ _)).trans (.handleRelayDisconnection _ _)
  | reconnectFired => exact .modifyRelay _ _ fun _ => rfl
  | reconnectScheduled _ => exact .scheduleReconnection _ _
  | forgotten _ _ _ => exact (KeepsCards.deleteRelay _ _).trans (.removeRemoteAgentRoutes _ _)
  | @routeDropped agentDid =>
    refine ⟨rfl, fun other route hroute => ?_, fun _ relay' _ hrelay hcard => ⟨relay', hrelay, hcard⟩⟩
    rcases update_apply_eq_iff.mp hroute with ⟨_, hroute⟩ | ⟨_, hroute⟩
    · cases hroute
    · exact hroute
  | stopped => exact ⟨rfl, nofun, nofun⟩
  | _ => cases hquiet

/-! ### Steps -/

theorem Served.keeps (h : Served checks s) (hkeeps : KeepsCards s s') : Served checks s' := by
  refine ⟨fun did card hcard => h.registry did card (hkeeps.registry ▸ hcard),
    fun agentDid route hroute => h.routes agentDid route (hkeeps.routes agentDid route hroute),
    fun relayDid relay' card hrelay' hcard => ?_⟩
  obtain ⟨relay, hrelay, hcard⟩ := hkeeps.relays relayDid relay' card hrelay' hcard
  exact h.relays relayDid relay card hrelay hcard

/-- **An authentic card** in an entry. -/
theorem Served.setRelay (h : Served checks s) {relay : FederatedRelay W A}
    (hcard : relay.card = some card) (hauthentic : checks.Authentic relayDid card) :
    Served checks (s.setRelay relayDid relay) := by
  refine ⟨h.registry, h.routes, fun other relay' card' hrelay hcard' => ?_⟩
  rcases update_apply_eq_iff.mp hrelay with ⟨rfl, hwritten⟩ | ⟨_, hrelay⟩
  · obtain rfl := Option.some.inj hwritten
    rw [hcard] at hcard'
    obtain rfl := Option.some.inj hcard'
    exact hauthentic
  · exact h.relays other relay' card' hrelay hcard'

theorem Served.registerFederatedRelay (h : Served checks s) {ws : W}
    {source : Option (Option String)} (hauthentic : checks.Authentic relayDid card) :
    Served checks (s.registerFederatedRelay relayDid card ws source) :=
  ((h.keeps (.same (.closeReplaced s relayDid ws))).keeps
    (.clearProbationTimer _ relayDid)).setRelay rfl hauthentic

/-- A change of an entry that leaves its card, or puts an authentic one there. -/
theorem Served.modifyRelay (h : Served checks s)
    (hf : ∀ relay card, (f relay).card = some card → relay.card = some card ∨
      checks.Authentic relayDid card) : Served checks (s.modifyRelay relayDid f) := by
  rw [FederationState.modifyRelay]
  cases hentry : s.federatedRelays relayDid with
  | none => exact h
  | some relay =>
    refine ⟨h.registry, h.routes, fun other relay' card hrelay hcard => ?_⟩
    rcases update_apply_eq_iff.mp hrelay with ⟨rfl, hwritten⟩ | ⟨_, hrelay⟩
    · obtain rfl := Option.some.inj hwritten
      rcases hf relay card hcard with hbefore | hauthentic
      · exact h.relays other relay card hentry hbefore
      · exact hauthentic
    · exact h.relays other relay' card hrelay hcard

theorem Served.handleFederationWelcome (h : Served checks s) {card : Option A}
    (hcard : ∀ card', card = some card' → checks.Authentic relayDid card') :
    Served checks (s.handleFederationWelcome relayDid card) := by
  refine h.modifyRelay fun relay card' hnew => ?_
  cases card with
  | none => exact Or.inl hnew
  | some welcomed =>
    obtain rfl : welcomed = card' := Option.some.inj hnew
    exact Or.inr (hcard welcomed rfl)

theorem Served.admitRelay (h : Served checks s) {task : ℕ}
    (hauthentic : checks.Authentic relayDid card) :
    Served checks (s.admitRelay task relayDid card) := by
  have hadmitted : Served checks ((s.modifyRelay relayDid fun relay =>
      { relay with card := some card, admissionState := some .admitted }).endAdmission task) := by
    refine Served.keeps (h.modifyRelay fun relay card' hnew => ?_) (.same (.endAdmission _ task))
    obtain rfl : card = card' := Option.some.inj hnew
    exact Or.inr hauthentic
  rw [FederationState.admitRelay]
  dsimp only
  split
  · exact hadmitted
  · refine hadmitted.keeps (KeepsCards.trans ?_ (.clearProbationTimer _ relayDid))
    split <;> exact .of_eq rfl rfl rfl

theorem authentic_of_eligible {endpoints : List String}
    (hverifies : checks.verifies relayDid card = true)
    (heligible : validateRelayEligibility checks relayDid card endpoints = true) :
    checks.Authentic relayDid card :=
  ⟨of_decide_eq_true ((Bool.and_eq_true _ _).mp heligible).1, hverifies⟩

theorem Served.step (h : Served checks s) (hstep : AuthenticStep config checks selfDid s event s') :
    Served checks s' := by
  obtain ⟨hstep, hpublished, hjoined, hwelcome⟩ := hstep
  by_cases hquiet : event.bringsCard = false
  · exact h.keeps (keepsCards_of_step hstep hquiet)
  cases hstep with
  | @registered did card hdid hverifies =>
    refine ⟨fun other card' hcard => ?_, h.routes, h.relays⟩
    rcases update_apply_eq_iff.mp hcard with ⟨rfl, hwritten⟩ | ⟨_, hcard⟩
    · obtain rfl := Option.some.inj hwritten
      exact ⟨hdid, hverifies⟩
    · exact h.registry other card' hcard
  | @published did card old hold =>
    refine ⟨fun other card' hcard => ?_, h.routes, h.relays⟩
    rcases update_apply_eq_iff.mp hcard with ⟨rfl, hwritten⟩ | ⟨_, hcard⟩
    · cases card with
      | none =>
        obtain rfl : old = card' := Option.some.inj hwritten
        exact h.registry other old hold
      | some published =>
        obtain rfl : published = card' := Option.some.inj hwritten
        exact hpublished other published rfl
    · exact h.registry other card' hcard
  | @unregistered did =>
    refine ⟨fun other card hcard => ?_, h.routes, h.relays⟩
    rcases update_apply_eq_iff.mp hcard with ⟨_, hcard⟩ | ⟨_, hcard⟩
    · cases hcard
    · exact h.registry other card hcard
  | @accepted ws relayDid card endpoints remoteIp now _ _ hverifies heligible =>
    refine Served.keeps
      (Served.registerFederatedRelay ?_ (authentic_of_eligible hverifies heligible))
      (.scheduleAdmission _ relayDid ws)
    exact h.keeps (.of_eq rfl rfl rfl)
  | @connecting relayDid card ws hknown _ _ _ _ =>
    have hauthentic : checks.Authentic relayDid card := by
      rcases hknown with hregistry | hentry
      · exact h.registry relayDid card hregistry
      · obtain ⟨relay, hrelay, hcard⟩ := Option.bind_eq_some_iff.mp hentry
        exact h.relays relayDid relay card hrelay hcard
    refine Served.setRelay ?_ rfl hauthentic
    exact h.keeps (.of_eq rfl rfl rfl)
  | @welcomed ws socket relayDid card relayCard endpoints _ _ _ hcard _ hverifies heligible =>
    have hauthentic := authentic_of_eligible hverifies heligible
    refine Served.keeps (Served.handleFederationWelcome
      (Served.registerFederatedRelay ?_ hauthentic) fun card' hsome => ?_)
      (.scheduleAdmission _ relayDid ws)
    · exact h.keeps (.of_eq rfl rfl rfl)
    · subst hsome
      obtain rfl : card' = relayCard := Option.some.inj hcard
      exact hauthentic
  | cardAccepted _ _ hverifies heligible =>
    exact h.admitRelay (authentic_of_eligible hverifies heligible)
  | @message ws socket relayDid msg hsocket _ hdid =>
    split
    swap
    · exact h
    rename_i haccepts
    rw [haccepts] at hjoined hwelcome
    cases msg with
    | welcome card =>
      refine h.handleFederationWelcome fun card' hsome => ?_
      subst hsome
      exact hwelcome ws card' socket relayDid rfl hsocket hdid
    | agentJoined agentDid card realm =>
      refine ⟨h.registry, fun other route hroute => ?_, h.relays⟩
      rcases update_apply_eq_iff.mp hroute with ⟨rfl, hwritten⟩ | ⟨_, hroute⟩
      · obtain rfl := Option.some.inj hwritten
        exact hjoined ws other card realm rfl
      · exact h.routes other route hroute
    | _ => exact absurd rfl hquiet
  | _ => exact absurd rfl hquiet

/-! ### Runs -/

theorem Served.of_starting (hstart : start.Starting) : Served checks start := by
  refine ⟨fun did card hcard => ?_, fun agentDid route hroute => ?_,
    fun relayDid relay card hrelay _ => ?_⟩
  · rw [hstart.registry] at hcard
    cases hcard
  · rw [hstart.remoteAgentRoutes] at hroute
    cases hroute
  · rw [hstart.federatedRelays] at hrelay
    cases hrelay

/-- **The cards of a relay are authentic**, in every run in which the messages that are not checked
carry authentic cards: those of the registry, of the routes and of the other relays. -/
theorem cards_authentic (hstart : start.Starting)
    (hrun : Trace (AuthenticStep config checks selfDid) start events s) : Served checks s := by
  induction hrun with
  | nil => exact .of_starting hstart
  | snoc _ hlast ih => exact ih.step hlast

end

/-! ### Runs of one relay -/

def bobCard : String × Bool := ("did:agent:zBob", true)

/-- Bob connects, and the card of his HELLO is served. -/
theorem cards_authentic_sample :
    ∃ s : FederationState Bool (String × Bool), s.registry "did:agent:zBob" = some bobCard ∧
      Served sampleChecks s := by
  have hrun : Trace (AuthenticStep DEFAULT_FEDERATION_CONFIG sampleChecks "did:agent:zRelayA")
    aloneRelay [] aloneRelay := .nil
  have hregistered := hrun.snoc ⟨@FederationStep.registered _ _ _ _ _ _ _ "did:agent:zBob" bobCard
    rfl rfl, nofun, nofun, nofun⟩
  exact ⟨_, by rfl, cards_authentic aloneRelay_starting hregistered⟩

/-- **A card that nobody has signed.**  Bob publishes one under his DID, and it is served. -/
theorem forged_card :
    ∃ events, ∃ s : FederationState Bool (String × Bool), ∃ card,
      Trace (FederationStep DEFAULT_FEDERATION_CONFIG sampleChecks "did:agent:zRelayA") aloneRelay
        events s ∧
      s.registry "did:agent:zBob" = some card ∧
      ¬sampleChecks.Authentic "did:agent:zBob" card := by
  have hrun : Trace (FederationStep DEFAULT_FEDERATION_CONFIG sampleChecks "did:agent:zRelayA")
    aloneRelay [] aloneRelay := .nil
  have hregistered := hrun.snoc (@FederationStep.registered _ _ _ _ _ _ _ "did:agent:zBob" bobCard
    rfl rfl)
  have hpublished := hregistered.snoc (@FederationStep.published _ _ _ _ _ _ _ "did:agent:zBob"
    (some ("did:agent:zAlice", false)) bobCard (by rfl))
  refine ⟨_, _, ("did:agent:zAlice", false), hpublished, by rfl, ?_⟩
  rintro ⟨hdid, _⟩
  exact absurd hdid (by decide)

end QuadraA.Relay
