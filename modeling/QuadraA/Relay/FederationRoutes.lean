import QuadraA.Relay.Federation

/-!
# Routes of active relays

A route is entered for a relay whose messages get past the gate, and that is data-plane active then.
The routes of a relay go with its disconnection, with a failed admission and with its entry; they
stay when it connects again, when this relay connects to it, and when its admission starts over.

* `routes_active` — the routes and the gate, in every run in which a relay that starts over has no
  routes;
* `stale_route` — a relay that connects again, under a route.
-/

set_option linter.unusedSectionVars false

namespace QuadraA.Relay

open QuadraA.Lib

section

variable {W A : Type} [DecidableEq W]
variable {config : FederationConfig} {checks : CardChecks A} {selfDid : String}
variable {s s' s'' start : FederationState W A} {event : FederationEvent W A}
  {events : List (FederationEvent W A)} {relayDid : String}

/-- No route names the relay. -/
def FederationState.Unrouted (s : FederationState W A) (relayDid : String) : Prop :=
  ∀ agentDid route, s.remoteAgentRoutes agentDid = some route → route.relayDid ≠ relayDid

/-- **A step starts over with a relay**: it registers or forgets a connection with it, opens one, or
starts its admission. -/
def FederationState.Resets (s : FederationState W A) (relayDid : String) :
    FederationEvent W A → Prop
  | .accepted _ relayDid' _ _ _ _ => relayDid' = relayDid
  | .connecting relayDid' _ _ => relayDid' = relayDid
  | .welcomed _ relayDid' _ _ => relayDid' = relayDid
  | .welcomeRefused _ relayDid' _ _ => relayDid' = relayDid
  | .admissionBegun task => ∃ admission relay, s.admissions task = some admission ∧
      s.federatedRelays relayDid = some relay ∧ s.isOpen relay.ws = true ∧
        admission.relayDid = relayDid
  | _ => False

/-- **The condition of a step.**  It starts over only with a relay that no route names. -/
def UnroutedStep (config : FederationConfig) (checks : CardChecks A) (selfDid : String)
    (s : FederationState W A) (event : FederationEvent W A) (s' : FederationState W A) : Prop :=
  FederationStep config checks selfDid s event s' ∧
    ∀ relayDid, s.Resets relayDid event → s.Unrouted relayDid

/-- Every entry has its admission state. -/
def FederationState.Known (s : FederationState W A) : Prop :=
  ∀ relayDid relay, s.federatedRelays relayDid = some relay → relay.admissionState ≠ none

/-- **Every route names a relay that is active.** -/
structure Routed (s : FederationState W A) : Prop where
  known : s.Known
  active : ∀ agentDid route, s.remoteAgentRoutes agentDid = some route →
    ∃ relay, s.federatedRelays route.relayDid = some relay ∧ relay.isDataPlaneActive = true

/-! ### What the operations do to entries and routes -/

/-- Only the entry of one relay changes, and no route. -/
structure OnlyRelay (relayDid : String) (s s' : FederationState W A) : Prop where
  routes : s'.remoteAgentRoutes = s.remoteAgentRoutes
  others : ∀ other, other ≠ relayDid → s'.federatedRelays other = s.federatedRelays other
  known : s.Known → s'.Known

/-- No route comes, and the relays that have routes stay active. -/
structure KeepsActive (s s' : FederationState W A) : Prop where
  routes : ∀ agentDid route, s'.remoteAgentRoutes agentDid = some route →
    s.remoteAgentRoutes agentDid = some route
  active : s.Known → ∀ relayDid relay, s.federatedRelays relayDid = some relay →
    relay.isDataPlaneActive = true → ¬s'.Unrouted relayDid →
      ∃ relay', s'.federatedRelays relayDid = some relay' ∧ relay'.isDataPlaneActive = true
  known : s.Known → s'.Known

theorem OnlyRelay.of_eq (hrelays : s'.federatedRelays = s.federatedRelays)
    (hroutes : s'.remoteAgentRoutes = s.remoteAgentRoutes) : OnlyRelay relayDid s s' :=
  ⟨hroutes, fun _ _ => by rw [hrelays], fun hknown => by
    rw [FederationState.Known, hrelays]
    exact hknown⟩

theorem OnlyRelay.trans (h : OnlyRelay relayDid s s') (h' : OnlyRelay relayDid s' s'') :
    OnlyRelay relayDid s s'' :=
  ⟨h'.routes.trans h.routes, fun other hne => (h'.others other hne).trans (h.others other hne),
    fun hknown => h'.known (h.known hknown)⟩

theorem KeepsActive.trans (h : KeepsActive s s') (h' : KeepsActive s' s'') : KeepsActive s s'' := by
  refine ⟨fun agentDid route hroute => h.routes agentDid route (h'.routes agentDid route hroute),
    fun hknown relayDid relay hrelay hactive hrouted => ?_, fun hknown => h'.known (h.known hknown)⟩
  have hbefore : ¬s'.Unrouted relayDid := fun hunrouted =>
    hrouted fun agentDid route hroute => hunrouted agentDid route (h'.routes agentDid route hroute)
  obtain ⟨relay', hrelay', hactive'⟩ := h.active hknown relayDid relay hrelay hactive hbefore
  exact h'.active (h.known hknown) relayDid relay' hrelay' hactive' hrouted

theorem KeepsActive.of_eq (hrelays : s'.federatedRelays = s.federatedRelays)
    (hroutes : s'.remoteAgentRoutes = s.remoteAgentRoutes) : KeepsActive s s' := by
  refine ⟨fun agentDid route hroute => by rwa [hroutes] at hroute,
    fun _ relayDid relay hrelay hactive _ => ⟨relay, by rw [hrelays, hrelay], hactive⟩,
    fun hknown => ?_⟩
  rw [FederationState.Known, hrelays]
  exact hknown

/-- A relay without routes may change. -/
theorem OnlyRelay.keeps (h : OnlyRelay relayDid s s') (hunrouted : s.Unrouted relayDid) :
    KeepsActive s s' := by
  refine ⟨fun agentDid route hroute => by rwa [h.routes] at hroute,
    fun _ relayDid' relay hrelay hactive hrouted => ?_, h.known⟩
  have hne : relayDid' ≠ relayDid := by
    rintro rfl
    refine hrouted fun agentDid route hroute => ?_
    rw [h.routes] at hroute
    exact hunrouted agentDid route hroute
  exact ⟨relay, by rw [h.others relayDid' hne, hrelay], hactive⟩

theorem unrouted_removeRemoteAgentRoutes (s : FederationState W A) (relayDid : String) :
    (s.removeRemoteAgentRoutesForRelay relayDid).Unrouted relayDid := by
  intro agentDid route hroute
  have hkept := Option.filter_eq_some_iff.mp hroute
  exact of_decide_eq_true hkept.2

/-- **The routes of a relay go**, once it has changed. -/
theorem OnlyRelay.removed (h : OnlyRelay relayDid s s') :
    KeepsActive s (s'.removeRemoteAgentRoutesForRelay relayDid) := by
  refine ⟨fun agentDid route hroute => ?_, fun _ relayDid' relay hrelay hactive hrouted => ?_,
    h.known⟩
  · have hkept := (Option.filter_eq_some_iff.mp hroute).1
    rwa [h.routes] at hkept
  · have hne : relayDid' ≠ relayDid := by
      rintro rfl
      exact hrouted (unrouted_removeRemoteAgentRoutes s' relayDid')
    exact ⟨relay, (h.others relayDid' hne).trans hrelay, hactive⟩

variable {f : FederatedRelay W A → FederatedRelay W A} {msg : FederationMessage A}

theorem OnlyRelay.modifyRelay (s : FederationState W A)
    (hf : ∀ relay, relay.admissionState ≠ none → (f relay).admissionState ≠ none) :
    OnlyRelay relayDid s (s.modifyRelay relayDid f) := by
  rw [FederationState.modifyRelay]
  cases hentry : s.federatedRelays relayDid with
  | none => exact .of_eq rfl rfl
  | some relay =>
    refine ⟨rfl, fun other hne => Function.update_of_ne hne _ _,
      fun hknown other relay' hrelay' => ?_⟩
    by_cases hother : other = relayDid
    · subst hother
      change Function.update s.federatedRelays other (some (f relay)) other = _ at hrelay'
      rw [Function.update_self] at hrelay'
      obtain rfl := Option.some.inj hrelay'
      exact hf relay (hknown other relay hentry)
    · change Function.update s.federatedRelays relayDid (some (f relay)) other = _ at hrelay'
      rw [Function.update_of_ne hother] at hrelay'
      exact hknown other relay' hrelay'

/-- A change that leaves an active relay active. -/
theorem KeepsActive.modifyRelay (s : FederationState W A) (relayDid : String)
    (hf : ∀ relay, relay.admissionState ≠ none → (f relay).admissionState ≠ none ∧
      (relay.isDataPlaneActive = true → (f relay).isDataPlaneActive = true)) :
    KeepsActive s (s.modifyRelay relayDid f) := by
  have honly : OnlyRelay relayDid s (s.modifyRelay relayDid f) :=
    .modifyRelay s fun relay hknown => (hf relay hknown).1
  refine ⟨fun agentDid route hroute => by rwa [honly.routes] at hroute,
    fun hknown other relay hrelay hactive _ => ?_, honly.known⟩
  by_cases hother : other = relayDid
  · subst hother
    refine ⟨f relay, ?_, (hf relay (hknown other relay hrelay)).2 hactive⟩
    rw [FederationState.modifyRelay, hrelay]
    exact Function.update_self ..
  · exact ⟨relay, by rw [honly.others other hother, hrelay], hactive⟩

theorem OnlyRelay.same (h : SameEntries s s') : OnlyRelay relayDid s s' :=
  .of_eq h.federatedRelays h.remoteAgentRoutes

theorem KeepsActive.same (h : SameEntries s s') : KeepsActive s s' :=
  .of_eq h.federatedRelays h.remoteAgentRoutes

theorem OnlyRelay.scheduleAdmission (s : FederationState W A) (relayDid other : String) (ws : W) :
    OnlyRelay relayDid s (s.scheduleAdmission other ws) := .of_eq rfl rfl

theorem OnlyRelay.clearProbationTimer (s : FederationState W A) (relayDid : String) :
    OnlyRelay relayDid s (s.clearProbationTimer relayDid) := by
  rw [FederationState.clearProbationTimer]
  split
  · exact .of_eq rfl rfl
  · refine OnlyRelay.trans ?_ (.modifyRelay _ fun _ hknown => hknown)
    exact .of_eq rfl rfl

theorem KeepsActive.clearProbationTimer (s : FederationState W A) (relayDid : String) :
    KeepsActive s (s.clearProbationTimer relayDid) := by
  rw [FederationState.clearProbationTimer]
  split
  · exact .of_eq rfl rfl
  · refine KeepsActive.trans ?_ (.modifyRelay _ _ fun _ hknown => ⟨hknown, fun hactive => hactive⟩)
    exact .of_eq rfl rfl

theorem KeepsActive.markAdmissionFailure (s : FederationState W A) (relayDid : String) (now : ℕ) :
    KeepsActive s (s.markAdmissionFailure config relayDid now) := by
  rw [FederationState.markAdmissionFailure]
  split
  · exact .of_eq rfl rfl
  · have hfailed : OnlyRelay relayDid s (((s.recordFailure config relayDid now).modifyRelay relayDid
        fun relay => { relay with connected := false, admissionState := some .probation })) :=
      (OnlyRelay.same (.recordFailure config s relayDid now)).trans
        (.modifyRelay _ fun _ _ => nofun)
    have hcleared := (hfailed.trans (.clearProbationTimer _ relayDid)).trans
      (.same (.clearPendingProbe _ relayDid true))
    exact hcleared.removed.trans (.same (.closeRelaySocket _ relayDid))

theorem OnlyRelay.disconnected (s : FederationState W A) (relayDid : String) (rejected : Bool) :
    OnlyRelay relayDid s
      (((s.modifyRelay relayDid fun relay => { relay with
        connected := false, connecting := false, ws := none, admittedByPeer := false
        }).clearProbationTimer relayDid).clearPendingProbe relayDid rejected) := by
  refine OnlyRelay.trans (OnlyRelay.trans ?_ (.clearProbationTimer _ relayDid))
    (.same (.clearPendingProbe _ relayDid rejected))
  exact .modifyRelay s fun _ hknown => hknown

theorem KeepsActive.handleIncomingDisconnect (s : FederationState W A) (relayDid : String) :
    KeepsActive s (s.handleIncomingDisconnect relayDid) := by
  rw [FederationState.handleIncomingDisconnect]
  split
  · exact .of_eq rfl rfl
  · exact (OnlyRelay.disconnected s relayDid false).removed

theorem OnlyRelay.deleteRelay (s : FederationState W A) (relayDid : String) :
    OnlyRelay relayDid s (s.deleteRelay relayDid) := by
  refine ⟨rfl, fun other hne => Function.update_of_ne hne _ _, fun hknown other relay hrelay => ?_⟩
  rcases update_apply_eq_iff.mp hrelay with ⟨_, hrelay⟩ | ⟨_, hrelay⟩
  · cases hrelay
  · exact hknown other relay hrelay

theorem KeepsActive.scheduleReconnection (s : FederationState W A) (relayDid : String) :
    KeepsActive s (s.scheduleReconnection config relayDid) := by
  rw [FederationState.scheduleReconnection]
  split
  · exact .of_eq rfl rfl
  · split
    · exact .of_eq rfl rfl
    · split
      · exact (OnlyRelay.deleteRelay s relayDid).removed
      · exact .modifyRelay s relayDid fun _ hknown => ⟨hknown, fun hactive => hactive⟩

theorem KeepsActive.handleRelayDisconnection (s : FederationState W A) (relayDid : String) :
    KeepsActive s (s.handleRelayDisconnection config relayDid) := by
  rw [FederationState.handleRelayDisconnection]
  split
  · exact .of_eq rfl rfl
  · exact (OnlyRelay.disconnected s relayDid true).removed.trans (.scheduleReconnection _ relayDid)

/-- A new entry in the place of an old one. -/
theorem OnlyRelay.setRelay (s : FederationState W A) (relayDid : String)
    {relay : FederatedRelay W A} (hstate : relay.admissionState ≠ none) :
    OnlyRelay relayDid s (s.setRelay relayDid relay) := by
  refine ⟨rfl, fun other hne => Function.update_of_ne hne _ _,
    fun hknown other relay' hrelay' => ?_⟩
  rcases update_apply_eq_iff.mp hrelay' with ⟨_, hrelay'⟩ | ⟨_, hrelay'⟩
  · obtain rfl := Option.some.inj hrelay'
    exact hstate
  · exact hknown other relay' hrelay'

theorem OnlyRelay.registerFederatedRelay (s : FederationState W A) (relayDid : String) (card : A)
    (ws : W) (source : Option (Option String)) :
    OnlyRelay relayDid s (s.registerFederatedRelay relayDid card ws source) :=
  ((OnlyRelay.same (.closeReplaced s relayDid ws)).trans (.clearProbationTimer _ relayDid)).trans
    (.setRelay _ relayDid nofun)

theorem OnlyRelay.handleFederationWelcome (s : FederationState W A) (relayDid : String)
    (card : Option A) : OnlyRelay relayDid s (s.handleFederationWelcome relayDid card) :=
  .modifyRelay s fun relay _ => by
    dsimp only
    split <;> nofun

theorem OnlyRelay.startProbation (s : FederationState W A) (relayDid : String) (connection : W) :
    OnlyRelay relayDid s (s.startProbation relayDid connection) := by
  rw [FederationState.startProbation]
  refine (OnlyRelay.clearProbationTimer s relayDid).trans (OnlyRelay.trans ?_ (.modifyRelay _ ?_))
  · exact .of_eq rfl rfl
  · exact fun _ _ => nofun

theorem KeepsActive.removeRemoteAgentRoute (s : FederationState W A) (agentDid relayDid : String) :
    KeepsActive s (s.removeRemoteAgentRoute agentDid relayDid) := by
  rw [FederationState.removeRemoteAgentRoute]
  split
  · refine ⟨fun other route hroute => ?_,
      fun _ _ relay hrelay hactive _ => ⟨relay, hrelay, hactive⟩, fun hknown => hknown⟩
    rcases update_apply_eq_iff.mp hroute with ⟨_, hroute⟩ | ⟨_, hroute⟩
    · cases hroute
    · exact hroute
  · exact .of_eq rfl rfl

/-- A relay that is active stays so when it sends a welcome again. -/
theorem KeepsActive.handleFederationWelcome (s : FederationState W A) (relayDid : String)
    (card : Option A) : KeepsActive s (s.handleFederationWelcome relayDid card) := by
  refine .modifyRelay s relayDid fun relay hknown => ⟨?_, fun hactive => ?_⟩
  · dsimp only
    split <;> nofun
  · rw [FederatedRelay.isDataPlaneActive] at hactive ⊢
    obtain ⟨_, hstate⟩ := (Bool.and_eq_true _ _).mp hactive
    cases hadmission : relay.admissionState with
    | none => exact absurd hadmission hknown
    | some state =>
      rw [hadmission] at hstate
      obtain ⟨hadmitted, hpeer⟩ := (Bool.and_eq_true _ _).mp hstate
      obtain rfl : state = .admitted := of_decide_eq_true hadmitted
      rw [if_pos rfl]
      exact hpeer

theorem KeepsActive.admitRelay (s : FederationState W A) (task : ℕ) (relayDid : String) (card : A) :
    KeepsActive s (s.admitRelay task relayDid card) := by
  have hadmitted : KeepsActive s ((s.modifyRelay relayDid fun relay =>
      { relay with card := some card, admissionState := some .admitted }).endAdmission task) := by
    refine KeepsActive.trans ?_ (.same (.endAdmission _ task))
    refine .modifyRelay s relayDid fun relay hknown => ⟨nofun, fun hactive => ?_⟩
    rw [FederatedRelay.isDataPlaneActive] at hactive ⊢
    obtain ⟨hconnected, hstate⟩ := (Bool.and_eq_true _ _).mp hactive
    cases hadmission : relay.admissionState with
    | none => exact absurd hadmission hknown
    | some state =>
      rw [hadmission] at hstate
      refine (Bool.and_eq_true _ _).mpr ⟨hconnected, ?_⟩
      exact ((Bool.and_eq_true _ _).mp hstate).2
  rw [FederationState.admitRelay]
  dsimp only
  split
  · exact hadmitted
  · refine hadmitted.trans (KeepsActive.trans ?_ (.clearProbationTimer _ relayDid))
    split <;> exact .of_eq rfl rfl

/-! ### Steps -/

theorem Routed.keeps (h : Routed s) (hkeeps : KeepsActive s s') : Routed s' := by
  refine ⟨hkeeps.known h.known, fun agentDid route hroute => ?_⟩
  obtain ⟨relay, hrelay, hactive⟩ := h.active agentDid route (hkeeps.routes agentDid route hroute)
  exact hkeeps.active h.known route.relayDid relay hrelay hactive fun hunrouted =>
    hunrouted agentDid route hroute rfl

/-- **A message that is not allowed during probation** is accepted from an active relay only. -/
theorem active_of_accepts (haccepts : s.accepts relayDid msg = true)
    (hgated : msg.allowedDuringProbation = false) :
    ∃ relay, s.federatedRelays relayDid = some relay ∧ relay.isDataPlaneActive = true := by
  rw [FederationState.accepts] at haccepts
  split at haccepts
  · cases haccepts
  · rw [hgated, Bool.or_false] at haccepts
    exact ⟨_, ‹_›, haccepts⟩

theorem Routed.message (h : Routed s) (haccepts : s.accepts relayDid msg = true) :
    Routed (s.handleMessage relayDid msg) := by
  cases msg with
  | welcome card => exact h.keeps (.handleFederationWelcome s relayDid card)
  | admitted =>
    refine h.keeps (.modifyRelay s relayDid fun relay hknown => ⟨hknown, fun hactive => ?_⟩)
    rw [FederatedRelay.isDataPlaneActive] at hactive ⊢
    obtain ⟨hconnected, hstate⟩ := (Bool.and_eq_true _ _).mp hactive
    refine (Bool.and_eq_true _ _).mpr ⟨hconnected, ?_⟩
    cases hadmission : relay.admissionState with
    | none => rfl
    | some state =>
      rw [hadmission] at hstate
      exact (Bool.and_eq_true _ _).mpr ⟨((Bool.and_eq_true _ _).mp hstate).1, rfl⟩
  | agentJoined agentDid card realm =>
    -- the relay of the new route is active
    refine ⟨h.known, fun other route hroute => ?_⟩
    rcases update_apply_eq_iff.mp hroute with ⟨_, hroute⟩ | ⟨_, hroute⟩
    · obtain rfl := Option.some.inj hroute
      exact active_of_accepts haccepts rfl
    · exact h.active other route hroute
  | agentLeft agentDid => exact h.keeps (.removeRemoteAgentRoute s agentDid relayDid)
  | healthResponse => exact h.keeps (.same (.handleFederationHealthResponse s relayDid))
  | card did card => exact h.keeps (.same (.handleFederationCard s relayDid did card))
  | _ => exact h

theorem Routed.step (h : Routed s) (hstep : UnroutedStep config checks selfDid s event s') :
    Routed s' := by
  obtain ⟨hstep, hunrouted⟩ := hstep
  cases hstep with
  | registered _ _ => exact h.keeps (.of_eq rfl rfl)
  | published _ => exact h.keeps (.of_eq rfl rfl)
  | unregistered => exact h.keeps (.of_eq rfl rfl)
  | @accepted ws relayDid card endpoints remoteIp now _ _ _ _ =>
    refine h.keeps (OnlyRelay.keeps ?_ (hunrouted relayDid rfl))
    refine OnlyRelay.trans (OnlyRelay.trans ?_ (.registerFederatedRelay _ relayDid card ws _))
      (.scheduleAdmission _ relayDid relayDid ws)
    exact .of_eq rfl rfl
  | handshakeRefused => exact h.keeps (.of_eq rfl rfl)
  | @connecting relayDid card ws _ _ _ _ _ =>
    refine h.keeps (OnlyRelay.keeps ?_ (hunrouted relayDid rfl))
    refine OnlyRelay.trans ?_ (.setRelay _ relayDid nofun)
    exact .of_eq rfl rfl
  | seedConnecting _ => exact h.keeps (.of_eq rfl rfl)
  | connectEnded =>
    exact h.keeps (.modifyRelay _ _ fun _ hknown => ⟨hknown, fun hactive => hactive⟩)
  | @welcomed ws socket relayDid card relayCard endpoints _ _ _ _ _ _ _ =>
    refine h.keeps (OnlyRelay.keeps ?_ (hunrouted relayDid rfl))
    refine OnlyRelay.trans (OnlyRelay.trans (OnlyRelay.trans ?_
      (.registerFederatedRelay _ relayDid relayCard ws none))
      (.handleFederationWelcome _ relayDid card)) (.scheduleAdmission _ relayDid relayDid ws)
    exact .of_eq rfl rfl
  | @welcomeRefused ws socket relayDid card relayCard endpoints _ _ _ _ _ _ =>
    exact h.keeps (((OnlyRelay.deleteRelay s relayDid).trans (.same (.closeSocket _ ws))).keeps
      (hunrouted relayDid rfl))
  | @admissionBegun task admission hadmission _ =>
    rw [FederationState.beginAdmission]
    split
    · rename_i hopen
      refine h.keeps (((OnlyRelay.startProbation s admission.relayDid admission.connection).trans
        (.same (.runHealthProbe _ task admission.relayDid))).keeps
          (hunrouted admission.relayDid ?_))
      cases hentry : s.federatedRelays admission.relayDid with
      | none =>
        rw [hentry] at hopen
        cases hopen
      | some relay =>
        rw [hentry] at hopen
        exact ⟨admission, relay, hadmission, hentry, hopen, rfl⟩
    · exact h.keeps (.same (.endAdmission s task))
  | healthTimedOut _ _ =>
    refine h.keeps (KeepsActive.trans ?_ (.same (.setPhase _ _ _)))
    exact .of_eq rfl rfl
  | cardProbed _ _ => exact h.keeps (.same (.runCardProbe _ _ _))
  | cardTimedOut _ _ =>
    refine h.keeps (KeepsActive.trans ?_ (.same (.setPhase _ _ _)))
    exact .of_eq rfl rfl
  | cardAccepted _ _ _ _ => exact h.keeps (.admitRelay _ _ _ _)
  | cardRefused _ _ _ => exact h.keeps (.same (.setPhase _ _ _))
  | admissionFailed _ _ =>
    exact h.keeps ((KeepsActive.same (.endAdmission _ _)).trans (.markAdmissionFailure _ _ _))
  | probationExpired _ =>
    refine h.keeps (KeepsActive.trans ?_ (.markAdmissionFailure _ _ _))
    exact .of_eq rfl rfl
  | @message ws socket relayDid msg _ _ _ =>
    split
    · rename_i haccepts
      exact h.message haccepts
    · exact h
  | closing => exact h.keeps (.same (.closeSocket _ _))
  | @closed ws next _ hnext =>
    have hclosed : KeepsActive s next := by
      rw [hnext]
      exact .of_eq rfl rfl
    split
    · exact h.keeps hclosed
    · split
      · exact h.keeps hclosed
      · split
        · exact h.keeps (hclosed.trans (.handleIncomingDisconnect _ _))
        · exact h.keeps (hclosed.trans (.handleRelayDisconnection _ _))
  | stale =>
    exact h.keeps ((KeepsActive.same (.closeRelaySocket _ _)).trans (.handleRelayDisconnection _ _))
  | reconnectFired =>
    exact h.keeps (.modifyRelay _ _ fun _ hknown => ⟨hknown, fun hactive => hactive⟩)
  | reconnectScheduled _ => exact h.keeps (.scheduleReconnection _ _)
  | forgotten _ _ _ => exact h.keeps (OnlyRelay.deleteRelay _ _).removed
  | @routeDropped agentDid =>
    refine h.keeps ⟨fun other route hroute => ?_,
      fun _ _ relay hrelay hactive _ => ⟨relay, hrelay, hactive⟩, fun hknown => hknown⟩
    rcases update_apply_eq_iff.mp hroute with ⟨_, hroute⟩ | ⟨_, hroute⟩
    · cases hroute
    · exact hroute
  | stopped =>
    refine ⟨fun relayDid relay hrelay => ?_, fun agentDid route hroute => ?_⟩
    · cases hrelay
    · cases hroute

/-! ### Runs -/

theorem Routed.run (hstart : start.Starting)
    (hrun : Trace (UnroutedStep config checks selfDid) start events s) : Routed s := by
  induction hrun with
  | nil =>
    refine ⟨fun relayDid relay hrelay => ?_, fun agentDid route hroute => ?_⟩
    · rw [hstart.federatedRelays] at hrelay
      cases hrelay
    · rw [hstart.remoteAgentRoutes] at hroute
      cases hroute
  | snoc _ hlast ih => exact ih.step hlast

/-- **Routes and messages of active relays.**  In every run in which no step starts over with a
relay that has routes, each route names an entry that is data-plane active, and a message that is
not allowed during probation is acted on for an active relay only. -/
theorem routes_active (hstart : start.Starting)
    (hrun : Trace (UnroutedStep config checks selfDid) start events s) :
    (∀ agentDid route, s.remoteAgentRoutes agentDid = some route →
      ∃ relay, s.federatedRelays route.relayDid = some relay ∧ relay.isDataPlaneActive = true) ∧
    ∀ ws msg s', UnroutedStep config checks selfDid s (.message ws msg true) s' →
      msg.allowedDuringProbation = false → ∃ socket relayDid relay,
        s.sockets ws = some socket ∧ socket.relayDid = some relayDid ∧
          s.federatedRelays relayDid = some relay ∧ relay.isDataPlaneActive = true := by
  refine ⟨(Routed.run hstart hrun).active, ?_⟩
  rintro ws msg s' ⟨hstep, _⟩ hgated
  generalize hevent : FederationEvent.message ws msg true = event at hstep
  cases hstep with
  | @message ws' socket relayDid msg' hsocket _ hdid =>
    injection hevent with hws hmsg haccepts
    subst hws hmsg
    obtain ⟨relay, hrelay, hactive⟩ := active_of_accepts haccepts.symm hgated
    exact ⟨socket, relayDid, relay, hsocket, hdid, hrelay, hactive⟩
  | _ => cases hevent

end

/-! ### Runs of one relay -/

/-- **A step of the sample run**: one that starts over with no relay. -/
theorem unroutedStep_of_step {s s' : FederationState Bool (String × Bool)}
    {event : FederationEvent Bool (String × Bool)}
    (hstep : FederationStep DEFAULT_FEDERATION_CONFIG sampleChecks "did:agent:zRelayA" s event s')
    (hreset : ∀ relayDid, ¬s.Resets relayDid event ∨ s.Unrouted relayDid) :
    UnroutedStep DEFAULT_FEDERATION_CONFIG sampleChecks "did:agent:zRelayA" s event s' :=
  ⟨hstep, fun relayDid hresets => (hreset relayDid).resolve_left fun hnot => hnot hresets⟩

/-- The peer connects, is admitted, admits this relay, and announces Bob. -/
theorem peer_admitted :
    ∃ events, ∃ s : FederationState Bool (String × Bool),
      Trace (UnroutedStep DEFAULT_FEDERATION_CONFIG sampleChecks "did:agent:zRelayA") aloneRelay
        events s ∧
      s.remoteAgentRoutes "did:agent:zBob"
        = some ⟨peerRelayDid, "public", ("did:agent:zBob", true)⟩ ∧
      s.sockets false = none ∧
      (s.counters.guardIncoming DEFAULT_FEDERATION_CONFIG none peerRelayDid 0).2 = true := by
  have hrun : Trace (UnroutedStep DEFAULT_FEDERATION_CONFIG sampleChecks "did:agent:zRelayA")
    aloneRelay [] aloneRelay := .nil
  have haccepted := hrun.snoc (unroutedStep_of_step (@FederationStep.accepted _ _ _ _ _ _ _ true
    peerRelayDid peerCard [] none 0 rfl rfl rfl rfl) fun _ => Or.inr nofun)
  have hbegun := haccepted.snoc (unroutedStep_of_step
    (@FederationStep.admissionBegun _ _ _ _ _ _ _ 0 _ rfl rfl) fun _ => Or.inr nofun)
  have hanswered := hbegun.snoc (unroutedStep_of_step (@FederationStep.message _ _ _ _ _ _ _ true _
    peerRelayDid .healthResponse rfl rfl rfl) fun _ => Or.inl id)
  have hprobed := hanswered.snoc (unroutedStep_of_step
    (@FederationStep.cardProbed _ _ _ _ _ _ _ 0 _ rfl rfl) fun _ => Or.inl id)
  have hcard := hprobed.snoc (unroutedStep_of_step (@FederationStep.message _ _ _ _ _ _ _ true _
    peerRelayDid (.card peerRelayDid (some peerCard)) rfl rfl rfl) fun _ => Or.inl id)
  have hadmitted := hcard.snoc (unroutedStep_of_step
    (@FederationStep.cardAccepted _ _ _ _ _ _ _ 0 _ peerCard rfl rfl rfl rfl) fun _ => Or.inl id)
  have hpeer := hadmitted.snoc (unroutedStep_of_step (@FederationStep.message _ _ _ _ _ _ _ true _
    peerRelayDid .admitted rfl rfl rfl) fun _ => Or.inl id)
  have hjoined := hpeer.snoc (unroutedStep_of_step (@FederationStep.message _ _ _ _ _ _ _ true _
    peerRelayDid (.agentJoined "did:agent:zBob" ("did:agent:zBob", true) "public") rfl rfl rfl)
    fun _ => Or.inl id)
  exact ⟨_, _, hjoined, by rfl, by rfl, by rfl⟩

/-- Bob's route names a relay that is active. -/
theorem routes_active_sample :
    ∃ s : FederationState Bool (String × Bool), ∃ relay,
      s.remoteAgentRoutes "did:agent:zBob"
        = some ⟨peerRelayDid, "public", ("did:agent:zBob", true)⟩ ∧
      s.federatedRelays peerRelayDid = some relay ∧ relay.isDataPlaneActive = true := by
  obtain ⟨events, s, hrun, hroute, _, _⟩ := peer_admitted
  obtain ⟨relay, hrelay, hactive⟩ := (routes_active aloneRelay_starting hrun).1 _ _ hroute
  exact ⟨s, relay, hroute, hrelay, hactive⟩

/-- **A route of a relay that connects again.**  The new connection has not been admitted, and Bob's
route stays. -/
theorem stale_route :
    ∃ events, ∃ s : FederationState Bool (String × Bool), ∃ relay,
      Trace (FederationStep DEFAULT_FEDERATION_CONFIG sampleChecks "did:agent:zRelayA") aloneRelay
        events s ∧
      s.remoteAgentRoutes "did:agent:zBob"
        = some ⟨peerRelayDid, "public", ("did:agent:zBob", true)⟩ ∧
      s.federatedRelays peerRelayDid = some relay ∧ relay.isDataPlaneActive = false := by
  obtain ⟨events, s, hrun, hroute, hsocket, hguard⟩ := peer_admitted
  have hagain := (hrun.mono fun hstep => hstep.1).snoc (@FederationStep.accepted _ _ _ _ _ _ _ false
    peerRelayDid peerCard [] none 0 hsocket hguard rfl rfl)
  refine ⟨_, _, _, hagain, ?_,
    relay_registerFederatedRelay _ peerRelayDid peerCard false (some none), rfl⟩
  rw [← hroute]
  refine congrFun (OnlyRelay.trans (OnlyRelay.trans ?_
    (.registerFederatedRelay _ peerRelayDid peerCard false _))
      (.scheduleAdmission _ peerRelayDid peerRelayDid false)).routes _
  exact .of_eq rfl rfl

end QuadraA.Relay
