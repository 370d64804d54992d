import QuadraA.Relay.Federation

/-!
# Events of replaced connections

Timers, admissions and close events act on the entry that a DID has when they come.  This is the
entry of their own connection, as long as no admission runs on into a new connection and no entry
goes while its timer runs.

* `events_scoped` — no event of another connection touches the current one;
* `replaced_connection_closes` — a close event that does, and an admission that does.
-/

set_option linter.unusedSectionVars false

namespace QuadraA.Relay

open QuadraA.Lib

section

variable {W A : Type} [DecidableEq W]
variable {config : FederationConfig} {checks : CardChecks A} {selfDid : String}
variable {s s' s'' start : FederationState W A} {event : FederationEvent W A}
  {events : List (FederationEvent W A)} {relayDid : String} {ws : W}

/-- **The connection that an event belongs to**: a close event, a probe that times out or whose
error is caught, and a probation timer. -/
def FederationState.owner (s : FederationState W A) : FederationEvent W A → Option (String × W)
  | .closed ws => (s.sockets ws).bind fun socket => socket.relayDid.map fun did => (did, ws)
  | .healthTimedOut task => (s.admissions task).map fun a => (a.relayDid, a.connection)
  | .cardTimedOut task => (s.admissions task).map fun a => (a.relayDid, a.connection)
  | .admissionFailed task _ => (s.admissions task).map fun a => (a.relayDid, a.connection)
  | .probationExpired timer _ => s.timers timer
  | _ => none

/-- A relay is connected over another socket than this one. -/
def FederationState.Newer (s : FederationState W A) (relayDid : String) (ws : W) : Prop :=
  ∃ relay ws', s.federatedRelays relayDid = some relay ∧ relay.connected = true ∧
    relay.ws = some ws' ∧ ws' ≠ ws

/-- **The connection with a relay is left alone**: its entry, its socket, its routes, and what
counts against it. -/
structure Untouched (relayDid : String) (s s' : FederationState W A) : Prop where
  relay : s'.federatedRelays relayDid = s.federatedRelays relayDid
  socket : ∀ relay ws, s.federatedRelays relayDid = some relay → relay.ws = some ws →
    s'.readyState ws = s.readyState ws
  routes : ∀ agentDid route, s.remoteAgentRoutes agentDid = some route →
    route.relayDid = relayDid → s'.remoteAgentRoutes agentDid = some route
  counters : s'.counters = s.counters

/-- The DID and the socket that a step registers. -/
def FederationEvent.registers : FederationEvent W A → Option (String × W)
  | .accepted ws relayDid _ _ _ _ => some (relayDid, ws)
  | .welcomed ws relayDid _ _ => some (relayDid, ws)
  | _ => none

/-- A step replaces or deletes the entry of a DID, without a look at its probation timer. -/
def FederationEvent.Drops (relayDid : String) : FederationEvent W A → Prop
  | .connecting relayDid' _ _ => relayDid' = relayDid
  | .welcomeRefused _ relayDid' _ _ => relayDid' = relayDid
  | .reconnectScheduled relayDid' => relayDid' = relayDid
  | .forgotten relayDid' => relayDid' = relayDid
  | _ => False

/-- **The condition of a step.**  The close event of a socket does not come while its relay is
connected over another one; a connection is registered while no admission for an earlier one runs;
and an entry is replaced or deleted while its probation timer does not run. -/
def ScopedStep (config : FederationConfig) (checks : CardChecks A) (selfDid : String)
    (s : FederationState W A) (event : FederationEvent W A) (s' : FederationState W A) : Prop :=
  FederationStep config checks selfDid s event s' ∧
    (∀ ws relayDid ws', event = .closed ws → s.owner event = some (relayDid, ws') →
      ¬s.Newer relayDid ws') ∧
    (∀ relayDid ws task admission, event.registers = some (relayDid, ws) →
      s.admissions task = some admission → admission.relayDid = relayDid →
        admission.connection = ws) ∧
    ∀ relayDid timer ws, event.Drops relayDid → s.timers timer ≠ some (relayDid, ws)

/-! ### Timers and admissions of the current connection -/

/-- **Timers and admissions are those of the current connection.** -/
structure Scoped (s : FederationState W A) : Prop where
  timers : ∀ timer relayDid ws, s.timers timer = some (relayDid, ws) →
    ∃ relay, s.federatedRelays relayDid = some relay ∧ relay.probationTimer = some timer ∧
      relay.ws = some ws
  admissions : ∀ task admission relay, s.admissions task = some admission →
    s.federatedRelays admission.relayDid = some relay →
      relay.ws = none ∨ relay.ws = some admission.connection
  fresh : ∀ timer, s.timerCount ≤ timer → s.timers timer = none

/-- No connection comes, no timer starts, and a timer that goes on is still that of its entry. -/
structure Settles (s s' : FederationState W A) : Prop where
  timers : ∀ timer entry, s'.timers timer = some entry → s.timers timer = some entry
  admissions : ∀ task admission', s'.admissions task = some admission' →
    ∃ admission, s.admissions task = some admission ∧
      admission.relayDid = admission'.relayDid ∧ admission.connection = admission'.connection
  relays : ∀ relayDid relay', s'.federatedRelays relayDid = some relay' →
    ∃ relay, s.federatedRelays relayDid = some relay ∧ (relay'.ws = none ∨ relay'.ws = relay.ws)
  kept : ∀ timer relayDid ws relay, s'.timers timer = some (relayDid, ws) →
    s.federatedRelays relayDid = some relay → relay.probationTimer = some timer →
      relay.ws = some ws → ∃ relay', s'.federatedRelays relayDid = some relay' ∧
        relay'.probationTimer = some timer ∧ relay'.ws = some ws
  count : s'.timerCount = s.timerCount

theorem Settles.of_eq (hrelays : s'.federatedRelays = s.federatedRelays)
    (htimers : s'.timers = s.timers) (hadmissions : s'.admissions = s.admissions)
    (hcount : s'.timerCount = s.timerCount) : Settles s s' := by
  refine ⟨fun timer entry htimer => by rwa [htimers] at htimer,
    fun task admission hadmission => ⟨admission, by rwa [hadmissions] at hadmission, rfl, rfl⟩,
    fun relayDid relay hrelay => ⟨relay, by rwa [hrelays] at hrelay, Or.inr rfl⟩,
    fun timer relayDid ws relay _ hrelay hprobation hws => ?_, hcount⟩
  exact ⟨relay, by rwa [hrelays], hprobation, hws⟩

theorem Settles.same (h : SameEntries s s') : Settles s s' := by
  refine ⟨fun timer entry htimer => by rwa [h.timers] at htimer, h.admissions,
    fun relayDid relay hrelay => ⟨relay, by rwa [h.federatedRelays] at hrelay, Or.inr rfl⟩,
    fun timer relayDid ws relay _ hrelay hprobation hws => ?_, h.timerCount⟩
  exact ⟨relay, by rwa [h.federatedRelays], hprobation, hws⟩

theorem Settles.trans (h : Settles s s') (h' : Settles s' s'') : Settles s s'' := by
  refine ⟨fun timer entry htimer => h.timers timer entry (h'.timers timer entry htimer),
    fun task admission'' hadmission => ?_, fun relayDid relay'' hrelay => ?_,
    fun timer relayDid ws relay htimer hrelay hprobation hws => ?_, h'.count.trans h.count⟩
  · obtain ⟨admission', hadmission', hdid', hconnection'⟩ :=
      h'.admissions task admission'' hadmission
    obtain ⟨admission, hadmission, hdid, hconnection⟩ := h.admissions task admission' hadmission'
    exact ⟨admission, hadmission, hdid.trans hdid', hconnection.trans hconnection'⟩
  · obtain ⟨relay', hrelay', hws'⟩ := h'.relays relayDid relay'' hrelay
    obtain ⟨relay, hrelay, hws⟩ := h.relays relayDid relay' hrelay'
    refine ⟨relay, hrelay, ?_⟩
    rcases hws' with hnone | hsame
    · exact Or.inl hnone
    · rwa [hsame]
  · obtain ⟨relay', hrelay', hprobation', hws'⟩ := h.kept timer relayDid ws relay
      (h'.timers timer _ htimer) hrelay hprobation hws
    exact h'.kept timer relayDid ws relay' htimer hrelay' hprobation' hws'

theorem Scoped.settles (h : Scoped s) (hsettles : Settles s s') : Scoped s' := by
  refine ⟨fun timer relayDid ws htimer => ?_, fun task admission' relay' hadmission hrelay => ?_,
    fun timer hle => ?_⟩
  · obtain ⟨relay, hrelay, hprobation, hws⟩ := h.timers timer relayDid ws
      (hsettles.timers timer _ htimer)
    exact hsettles.kept timer relayDid ws relay htimer hrelay hprobation hws
  · obtain ⟨admission, hadmission, hdid, hconnection⟩ := hsettles.admissions task admission' hadmission
    obtain ⟨relay, hrelay, hws⟩ := hsettles.relays admission'.relayDid relay' hrelay
    rcases hws with hnone | hsame
    · exact Or.inl hnone
    · rw [hsame, ← hconnection]
      exact h.admissions task admission relay hadmission (hdid ▸ hrelay)
  · rw [hsettles.count] at hle
    cases htimer : s'.timers timer with
    | none => rfl
    | some entry =>
      have hbefore := hsettles.timers timer entry htimer
      rw [h.fresh timer hle] at hbefore
      cases hbefore

variable {f : FederatedRelay W A → FederatedRelay W A} {relay : FederatedRelay W A} {card : A}
  {source : Option (Option String)} {ws' : W}

/-- A change of an entry that leaves its socket and its timer. -/
theorem Settles.modifyRelay (s : FederationState W A) (relayDid : String)
    (hf : ∀ relay, (f relay).ws = relay.ws ∧ (f relay).probationTimer = relay.probationTimer) :
    Settles s (s.modifyRelay relayDid f) := by
  rw [FederationState.modifyRelay]
  cases hentry : s.federatedRelays relayDid with
  | none => exact .of_eq rfl rfl rfl rfl
  | some relay =>
    refine ⟨fun _ _ htimer => htimer, fun _ admission hadmission => ⟨admission, hadmission, rfl, rfl⟩,
      fun other relay' hrelay => ?_, fun timer other ws relay' _ hrelay hprobation hws => ?_, rfl⟩
    · change Function.update s.federatedRelays relayDid (some (f relay)) other = _ at hrelay
      rcases update_apply_eq_iff.mp hrelay with ⟨rfl, hwritten⟩ | ⟨_, hrelay⟩
      · obtain rfl := Option.some.inj hwritten
        exact ⟨relay, hentry, Or.inr (hf relay).1⟩
      · exact ⟨relay', hrelay, Or.inr rfl⟩
    · show ∃ relay'', Function.update s.federatedRelays relayDid (some (f relay)) other = _ ∧ _
      by_cases hother : other = relayDid
      · subst hother
        rw [hentry] at hrelay
        obtain rfl := Option.some.inj hrelay
        rw [Function.update_self]
        exact ⟨f relay, rfl, (hf relay).2.trans hprobation, (hf relay).1.trans hws⟩
      · rw [Function.update_of_ne hother]
        exact ⟨relay', hrelay, hprobation, hws⟩

/-- The timer of an entry goes, from the entry and from the timers. -/
theorem clearProbationTimer_eq (hrelay : s.federatedRelays relayDid = some relay) :
    ∃ timers, s.clearProbationTimer relayDid = { s with
        federatedRelays := Function.update s.federatedRelays relayDid
          (some { relay with probationTimer := none })
        timers := timers } ∧
      ∀ timer entry, timers timer = some entry →
        s.timers timer = some entry ∧ relay.probationTimer ≠ some timer := by
  rw [FederationState.clearProbationTimer, hrelay, Option.bind_some]
  cases hprobation : relay.probationTimer with
  | none =>
    refine ⟨s.timers, ?_, fun timer entry htimer => ⟨htimer, nofun⟩⟩
    have hsame : { relay with probationTimer := none } = relay := by rw [← hprobation]
    rw [hsame, ← hrelay, Function.update_eq_self]
  | some timer =>
    refine ⟨Function.update s.timers timer none, ?_, fun other entry htimer => ?_⟩
    · dsimp only
      rw [FederationState.modifyRelay]
      dsimp only
      rw [hrelay]
    · rcases update_apply_eq_iff.mp htimer with ⟨_, htimer⟩ | ⟨hother, htimer⟩
      · cases htimer
      · exact ⟨htimer, fun heq => hother (Option.some.inj heq).symm⟩

theorem timers_cleared (hentry : s.federatedRelays relayDid = some relay)
    (hf : (f relay).probationTimer = relay.probationTimer) {timer : ℕ} {entry : String × W}
    (htimer : ((s.modifyRelay relayDid f).clearProbationTimer relayDid).timers timer = some entry) :
    s.timers timer = some entry ∧ relay.probationTimer ≠ some timer := by
  have hmodified : s.modifyRelay relayDid f = s.setRelay relayDid (f relay) := by
    rw [FederationState.modifyRelay, hentry]
    rfl
  have hnew : (s.setRelay relayDid (f relay)).federatedRelays relayDid = some (f relay) :=
    Function.update_self ..
  obtain ⟨timers, heq, htimers⟩ := clearProbationTimer_eq hnew
  rw [hmodified, heq] at htimer
  rw [← hf]
  exact htimers timer entry htimer

/-- **A relay is disconnected**, and its timer goes with its socket. -/
theorem Settles.cleared (s : FederationState W A) (relayDid : String)
    (hf : ∀ relay, ((f relay).ws = none ∨ (f relay).ws = relay.ws) ∧
      (f relay).probationTimer = relay.probationTimer) :
    Settles s ((s.modifyRelay relayDid f).clearProbationTimer relayDid) := by
  cases hentry : s.federatedRelays relayDid with
  | none =>
    have hnone : s.modifyRelay relayDid f = s := by rw [FederationState.modifyRelay, hentry]
    rw [hnone, FederationState.clearProbationTimer, hentry]
    exact .of_eq rfl rfl rfl rfl
  | some relay =>
    have hmodified : s.modifyRelay relayDid f = s.setRelay relayDid (f relay) := by
      rw [FederationState.modifyRelay, hentry]
      rfl
    have hnew : (s.setRelay relayDid (f relay)).federatedRelays relayDid = some (f relay) :=
      Function.update_self ..
    rw [hmodified]
    obtain ⟨timers, heq, htimers⟩ := clearProbationTimer_eq hnew
    rw [heq, FederationState.setRelay]
    dsimp only
    rw [Function.update_idem]
    refine ⟨fun timer entry htimer => (htimers timer entry htimer).1,
      fun _ admission hadmission => ⟨admission, hadmission, rfl, rfl⟩,
      fun other relay'' hrelay => ?_,
      fun timer other ws relay'' htimer hrelay hprobation hws => ?_, rfl⟩
    · dsimp only at hrelay
      rcases update_apply_eq_iff.mp hrelay with ⟨rfl, hwritten⟩ | ⟨_, hrelay⟩
      · obtain rfl := Option.some.inj hwritten
        exact ⟨relay, hentry, (hf relay).1⟩
      · exact ⟨relay'', hrelay, Or.inr rfl⟩
    · have hother : other ≠ relayDid := by
        rintro rfl
        rw [hentry] at hrelay
        obtain rfl := Option.some.inj hrelay
        exact (htimers timer _ htimer).2 ((hf relay).2.trans hprobation)
      dsimp only
      rw [Function.update_of_ne hother]
      exact ⟨relay'', hrelay, hprobation, hws⟩

theorem Settles.clearProbationTimer (s : FederationState W A) (relayDid : String) :
    Settles s (s.clearProbationTimer relayDid) := by
  have hcleared := Settles.cleared s relayDid (f := id) fun _ => ⟨Or.inr rfl, rfl⟩
  have hsame : s.modifyRelay relayDid id = s := by
    rw [FederationState.modifyRelay]
    cases hentry : s.federatedRelays relayDid with
    | none => rfl
    | some relay =>
      dsimp only
      rw [id, ← hentry, Function.update_eq_self]
  rwa [hsame] at hcleared

theorem Settles.removeRemoteAgentRoutes (s : FederationState W A) (relayDid : String) :
    Settles s (s.removeRemoteAgentRoutesForRelay relayDid) := .of_eq rfl rfl rfl rfl

theorem Settles.markAdmissionFailure (s : FederationState W A) (relayDid : String) (now : ℕ) :
    Settles s (s.markAdmissionFailure config relayDid now) := by
  rw [FederationState.markAdmissionFailure]
  split
  · exact .of_eq rfl rfl rfl rfl
  · refine Settles.trans ?_ (.same (.closeRelaySocket _ relayDid))
    refine Settles.trans ?_ (.removeRemoteAgentRoutes _ relayDid)
    refine Settles.trans ?_ (.same (.clearPendingProbe _ relayDid true))
    refine (Settles.same (.recordFailure config s relayDid now)).trans ?_
    exact .cleared _ relayDid fun _ => ⟨Or.inr rfl, rfl⟩

theorem Settles.disconnected (s : FederationState W A) (relayDid : String) (rejected : Bool) :
    Settles s
      ((((s.modifyRelay relayDid fun relay => { relay with
        connected := false, connecting := false, ws := none, admittedByPeer := false
        }).clearProbationTimer relayDid).clearPendingProbe relayDid
          rejected).removeRemoteAgentRoutesForRelay relayDid) := by
  refine Settles.trans ?_ (.removeRemoteAgentRoutes _ relayDid)
  refine Settles.trans ?_ (.same (.clearPendingProbe _ relayDid rejected))
  exact .cleared s relayDid fun _ => ⟨Or.inl rfl, rfl⟩

theorem Settles.handleIncomingDisconnect (s : FederationState W A) (relayDid : String) :
    Settles s (s.handleIncomingDisconnect relayDid) := by
  rw [FederationState.handleIncomingDisconnect]
  split
  · exact .of_eq rfl rfl rfl rfl
  · exact .disconnected s relayDid false

/-! ### Entries that come and go -/

/-- No timer of a relay runs. -/
def FederationState.Untimed (s : FederationState W A) (relayDid : String) : Prop :=
  ∀ timer ws, s.timers timer ≠ some (relayDid, ws)

theorem Scoped.untimed_cleared (h : Scoped s) (relayDid : String) :
    (s.clearProbationTimer relayDid).Untimed relayDid := by
  intro timer ws htimer
  obtain ⟨relay, hrelay, hprobation, _⟩ := h.timers timer relayDid ws
    ((Settles.clearProbationTimer s relayDid).timers timer _ htimer)
  obtain ⟨timers, heq, htimers⟩ := clearProbationTimer_eq hrelay
  rw [heq] at htimer
  exact (htimers timer _ htimer).2 hprobation

theorem Scoped.deleteRelay (h : Scoped s) (huntimed : s.Untimed relayDid) :
    Scoped (s.deleteRelay relayDid) := by
  refine ⟨fun timer other ws htimer => ?_, fun task admission relay hadmission hrelay => ?_, h.fresh⟩
  · have hother : other ≠ relayDid := by
      rintro rfl
      exact huntimed timer ws htimer
    obtain ⟨relay, hrelay, hrest⟩ := h.timers timer other ws htimer
    exact ⟨relay, (Function.update_of_ne hother ..).trans hrelay, hrest⟩
  · change Function.update s.federatedRelays relayDid none admission.relayDid = _ at hrelay
    rcases update_apply_eq_iff.mp hrelay with ⟨_, hrelay⟩ | ⟨_, hrelay⟩
    · cases hrelay
    · exact h.admissions task admission relay hadmission hrelay

/-- An entry is replaced while no timer of its relay runs. -/
theorem Scoped.setRelay (h : Scoped s) (huntimed : s.Untimed relayDid)
    (hws : ∀ task admission, s.admissions task = some admission → admission.relayDid = relayDid →
      relay.ws = none ∨ relay.ws = some admission.connection) :
    Scoped (s.setRelay relayDid relay) := by
  refine ⟨fun timer other ws htimer => ?_, fun task admission relay' hadmission hrelay => ?_,
    h.fresh⟩
  · have hother : other ≠ relayDid := by
      rintro rfl
      exact huntimed timer ws htimer
    obtain ⟨relay', hrelay, hrest⟩ := h.timers timer other ws htimer
    exact ⟨relay', (Function.update_of_ne hother ..).trans hrelay, hrest⟩
  · change Function.update s.federatedRelays relayDid (some relay) admission.relayDid = _ at hrelay
    rcases update_apply_eq_iff.mp hrelay with ⟨hother, hrelay⟩ | ⟨_, hrelay⟩
    · obtain rfl := Option.some.inj hrelay
      exact hws task admission hadmission hother
    · exact h.admissions task admission relay' hadmission hrelay

/-- **A connection is registered** while no admission of an earlier one runs. -/
theorem Scoped.registerFederatedRelay (h : Scoped s)
    (hadmissions : ∀ task admission, s.admissions task = some admission →
      admission.relayDid = relayDid → admission.connection = ws) :
    Scoped (s.registerFederatedRelay relayDid card ws source) := by
  have hreplaced : Settles s (s.closeReplaced relayDid ws) := .same (.closeReplaced s relayDid ws)
  have hcleared := (h.settles hreplaced).untimed_cleared relayDid
  have hsettles := hreplaced.trans (.clearProbationTimer _ relayDid)
  refine (h.settles hsettles).setRelay hcleared fun task admission' hadmission' hdid' => ?_
  obtain ⟨admission, hadmission, hdid, hconnection⟩ :=
    hsettles.admissions task admission' hadmission'
  refine Or.inr ?_
  rw [← hconnection, hadmissions task admission hadmission (hdid.trans hdid')]
  rfl

theorem Scoped.scheduleAdmission (h : Scoped s)
    (hws : ∀ relay, s.federatedRelays relayDid = some relay → relay.ws = some ws) :
    Scoped (s.scheduleAdmission relayDid ws) := by
  refine ⟨h.timers, fun task admission relay hadmission hrelay => ?_, h.fresh⟩
  rcases update_apply_eq_iff.mp hadmission with ⟨_, hadmission⟩ | ⟨_, hadmission⟩
  · obtain rfl := Option.some.inj hadmission
    exact Or.inr (hws relay hrelay)
  · exact h.admissions task admission relay hadmission hrelay

/-- **A timer starts** for the connection of its entry. -/
theorem Scoped.startProbation (h : Scoped s) (hrelay : s.federatedRelays relayDid = some relay)
    (hws : relay.ws = some ws) : Scoped (s.startProbation relayDid ws) := by
  have hcleared := h.settles (.clearProbationTimer s relayDid)
  have huntimed := h.untimed_cleared relayDid
  obtain ⟨timers, heq, _⟩ := clearProbationTimer_eq hrelay
  have hentry : (s.clearProbationTimer relayDid).federatedRelays relayDid
      = some { relay with probationTimer := none } := by
    rw [heq]
    exact Function.update_self ..
  rw [FederationState.startProbation]
  generalize s.clearProbationTimer relayDid = t at hcleared huntimed hentry
  rw [FederationState.modifyRelay]
  dsimp only
  rw [hentry]
  refine ⟨fun timer other ws' htimer => ?_, fun task admission relay' hadmission hrelay' => ?_,
    fun timer hle => ?_⟩
  · dsimp only at htimer ⊢
    by_cases hnew : timer = t.timerCount
    · rw [hnew, Function.update_self] at htimer
      cases htimer
      rw [Function.update_self]
      exact ⟨_, rfl, congrArg some hnew.symm, hws⟩
    · rw [Function.update_of_ne hnew] at htimer
      have hother : other ≠ relayDid := by
        rintro rfl
        exact huntimed timer ws' htimer
      rw [Function.update_of_ne hother]
      exact hcleared.timers timer other ws' htimer
  · dsimp only at hrelay'
    rcases update_apply_eq_iff.mp hrelay' with ⟨hother, hrelay'⟩ | ⟨_, hrelay'⟩
    · obtain rfl := Option.some.inj hrelay'
      have hkept := hcleared.admissions task admission _ hadmission (hother ▸ hentry)
      exact hkept
    · exact hcleared.admissions task admission relay' hadmission hrelay'
  · have hle : t.timerCount + 1 ≤ timer := hle
    dsimp only
    rw [Function.update_of_ne (by omega)]
    exact hcleared.fresh timer (by omega)

theorem Scoped.scheduleReconnection (h : Scoped s) (huntimed : s.Untimed relayDid) :
    Scoped (s.scheduleReconnection config relayDid) := by
  rw [FederationState.scheduleReconnection]
  split
  · exact h
  · split
    · exact h
    · split
      · exact (h.deleteRelay huntimed).settles (.removeRemoteAgentRoutes _ relayDid)
      · exact h.settles (.modifyRelay s relayDid fun _ => ⟨rfl, rfl⟩)

theorem Scoped.handleRelayDisconnection (h : Scoped s) (relayDid : String) :
    Scoped (s.handleRelayDisconnection config relayDid) := by
  rw [FederationState.handleRelayDisconnection]
  cases hentry : s.federatedRelays relayDid with
  | none => exact h
  | some relay =>
    have hsettles := Settles.disconnected s relayDid true
    refine (h.settles hsettles).scheduleReconnection fun timer ws htimer => ?_
    -- the timer that the entry had is cleared
    have hpending := (SameEntries.clearPendingProbe ((s.modifyRelay relayDid fun relay =>
      { relay with connected := false, connecting := false, ws := none, admittedByPeer := false
        }).clearProbationTimer relayDid) relayDid true).timers
    obtain ⟨hbefore, hgone⟩ := timers_cleared hentry rfl ((congrFun hpending timer).symm.trans htimer)
    obtain ⟨relay', hrelay', hprobation, _⟩ := h.timers timer relayDid ws hbefore
    rw [hentry] at hrelay'
    cases hrelay'
    exact hgone hprobation

/-! ### Steps -/

theorem Settles.admitRelay (s : FederationState W A) (task : ℕ) (relayDid : String) (card : A) :
    Settles s (s.admitRelay task relayDid card) := by
  have hadmitted : Settles s ((s.modifyRelay relayDid fun relay =>
      { relay with card := some card, admissionState := some .admitted }).endAdmission task) := by
    refine Settles.trans ?_ (.same (.endAdmission _ task))
    exact .modifyRelay s relayDid fun _ => ⟨rfl, rfl⟩
  rw [FederationState.admitRelay]
  dsimp only
  split
  · exact hadmitted
  · refine hadmitted.trans (Settles.trans ?_ (.clearProbationTimer _ relayDid))
    split <;> exact .of_eq rfl rfl rfl rfl

theorem Settles.handleMessage (s : FederationState W A) (relayDid : String)
    (msg : FederationMessage A) : Settles s (s.handleMessage relayDid msg) := by
  cases msg with
  | welcome card => exact .modifyRelay s relayDid fun _ => ⟨rfl, rfl⟩
  | admitted => exact .modifyRelay s relayDid fun _ => ⟨rfl, rfl⟩
  | agentJoined agentDid card realm => exact .of_eq rfl rfl rfl rfl
  | agentLeft agentDid =>
    show Settles s (s.removeRemoteAgentRoute agentDid relayDid)
    rw [FederationState.removeRemoteAgentRoute]
    split <;> exact .of_eq rfl rfl rfl rfl
  | healthResponse => exact .same (.handleFederationHealthResponse s relayDid)
  | card did card => exact .same (.handleFederationCard s relayDid did card)
  | _ => exact .of_eq rfl rfl rfl rfl

theorem Scoped.stop (h : Scoped s) : Scoped s.stop := by
  refine ⟨fun timer relayDid ws htimer => ?_, fun task admission relay _ hrelay => ?_,
    fun timer hle => ?_⟩
  · obtain ⟨hbefore, hleaked⟩ := Option.filter_eq_some_iff.mp htimer
    obtain ⟨relay, hrelay, hprobation, _⟩ := h.timers timer relayDid ws hbefore
    refine absurd ?_ (of_decide_eq_true hleaked)
    dsimp only
    rw [hrelay, Option.bind_some, hprobation]
  · change none = some relay at hrelay
    cases hrelay
  · show (s.timers timer).filter _ = none
    rw [h.fresh timer hle]
    rfl

theorem Scoped.step (h : Scoped s) (hstep : ScopedStep config checks selfDid s event s') :
    Scoped s' := by
  obtain ⟨hstep, _, hregisters, hdrops⟩ := hstep
  cases hstep with
  | registered _ _ => exact h.settles (.of_eq rfl rfl rfl rfl)
  | published _ => exact h.settles (.of_eq rfl rfl rfl rfl)
  | unregistered => exact h.settles (.of_eq rfl rfl rfl rfl)
  | @accepted ws relayDid card endpoints remoteIp now _ _ _ _ =>
    refine Scoped.scheduleAdmission (Scoped.registerFederatedRelay ?_ ?_) fun relay hrelay => ?_
    · exact h.settles (.of_eq rfl rfl rfl rfl)
    · exact fun task admission => hregisters relayDid ws task admission rfl
    · rw [relay_registerFederatedRelay] at hrelay
      obtain rfl := Option.some.inj hrelay
      rfl
  | handshakeRefused => exact h.settles (.of_eq rfl rfl rfl rfl)
  | @connecting relayDid card ws _ _ _ _ _ =>
    refine Scoped.setRelay ?_ ?_ fun task admission hadmission hdid => ?_
    · exact h.settles (.of_eq rfl rfl rfl rfl)
    · exact fun timer ws => hdrops relayDid timer ws rfl
    · -- the entry keeps the socket that it has
      subst hdid
      show (s.federatedRelays admission.relayDid).bind _ = none ∨
        (s.federatedRelays admission.relayDid).bind _ = _
      cases hentry : s.federatedRelays admission.relayDid with
      | none => exact Or.inl rfl
      | some existing => exact h.admissions task admission existing hadmission hentry
  | seedConnecting _ => exact h.settles (.of_eq rfl rfl rfl rfl)
  | connectEnded => exact h.settles (.modifyRelay _ _ fun _ => ⟨rfl, rfl⟩)
  | @welcomed ws socket relayDid card relayCard endpoints _ _ _ _ _ _ _ =>
    refine Scoped.scheduleAdmission (Scoped.settles (Scoped.registerFederatedRelay ?_ ?_)
      (.modifyRelay _ relayDid fun _ => ⟨rfl, rfl⟩)) fun relay hrelay => ?_
    · exact h.settles (.of_eq rfl rfl rfl rfl)
    · exact fun task admission => hregisters relayDid ws task admission rfl
    · rw [FederationState.handleFederationWelcome, FederationState.modifyRelay,
        relay_registerFederatedRelay] at hrelay
      dsimp only at hrelay
      rw [Function.update_self] at hrelay
      obtain rfl := Option.some.inj hrelay
      rfl
  | @welcomeRefused ws _ relayDid _ _ _ _ _ _ _ _ _ =>
    exact (h.deleteRelay (hdrops relayDid · · rfl)).settles (.same (.closeSocket _ ws))
  | @admissionBegun task admission hadmission _ =>
    rw [FederationState.beginAdmission]
    split
    · rename_i hopen
      refine Scoped.settles ?_ (.same (.runHealthProbe _ task admission.relayDid))
      cases hentry : s.federatedRelays admission.relayDid with
      | none =>
        rw [hentry] at hopen
        cases hopen
      | some relay =>
        rw [hentry, Option.bind_some] at hopen
        refine h.startProbation hentry ((h.admissions task admission relay hadmission
          hentry).resolve_left fun hnone => ?_)
        rw [hnone] at hopen
        cases hopen
    · exact h.settles (.same (.endAdmission s task))
  | healthTimedOut _ _ =>
    refine h.settles (Settles.trans ?_ (.same (.setPhase _ _ _)))
    exact .of_eq rfl rfl rfl rfl
  | cardProbed _ _ => exact h.settles (.same (.runCardProbe _ _ _))
  | cardTimedOut _ _ =>
    refine h.settles (Settles.trans ?_ (.same (.setPhase _ _ _)))
    exact .of_eq rfl rfl rfl rfl
  | cardAccepted _ _ _ _ => exact h.settles (.admitRelay _ _ _ _)
  | cardRefused _ _ _ => exact h.settles (.same (.setPhase _ _ _))
  | admissionFailed _ _ =>
    exact h.settles ((Settles.same (.endAdmission _ _)).trans (.markAdmissionFailure _ _ _))
  | @probationExpired timer now relayDid connection htimer =>
    refine Scoped.settles ?_ (.markAdmissionFailure _ relayDid now)
    refine h.settles ⟨fun other entry hother => ?_,
      fun _ admission hadmission => ⟨admission, hadmission, rfl, rfl⟩,
      fun _ relay hrelay => ⟨relay, hrelay, Or.inr rfl⟩,
      fun _ _ _ relay _ hrelay hprobation hws => ⟨relay, hrelay, hprobation, hws⟩, rfl⟩
    dsimp only at hother
    rcases update_apply_eq_iff.mp hother with ⟨_, hother⟩ | ⟨_, hother⟩
    · cases hother
    · exact hother
  | @message ws socket relayDid msg _ _ _ =>
    split
    · exact h.settles (.handleMessage s relayDid msg)
    · exact h
  | closing => exact h.settles (.same (.closeSocket _ _))
  | @closed ws next _ hnext =>
    have hclosed : Scoped next := by
      rw [hnext]
      exact h.settles (.of_eq rfl rfl rfl rfl)
    split
    · exact hclosed
    · split
      · exact hclosed
      · split
        · exact hclosed.settles (.handleIncomingDisconnect _ _)
        · exact hclosed.handleRelayDisconnection _
  | stale => exact (h.settles (.same (.closeRelaySocket _ _))).handleRelayDisconnection _
  | reconnectFired => exact h.settles (.modifyRelay _ _ fun _ => ⟨rfl, rfl⟩)
  | @reconnectScheduled relayDid _ => exact h.scheduleReconnection (hdrops relayDid · · rfl)
  | @forgotten relayDid _ _ _ _ =>
    exact (h.deleteRelay (hdrops relayDid · · rfl)).settles (.removeRemoteAgentRoutes _ relayDid)
  | routeDropped => exact h.settles (.of_eq rfl rfl rfl rfl)
  | stopped => exact h.stop

/-! ### Runs -/

theorem Scoped.run (hstart : start.Starting)
    (hrun : Trace (ScopedStep config checks selfDid) start events s) : Scoped s := by
  induction hrun with
  | nil =>
    refine ⟨fun timer relayDid ws htimer => ?_, fun task admission relay hadmission _ => ?_,
      fun timer _ => hstart.timers timer⟩
    · rw [hstart.timers] at htimer
      cases htimer
    · rw [hstart.admissions] at hadmission
      cases hadmission
  | snoc _ hlast ih => exact ih.step hlast

/-- **An admission or a timer** belongs to the current connection, if there is one. -/
theorem Scoped.current (h : Scoped s) (howner : s.owner event = some (relayDid, ws'))
    (hclosed : ∀ ws, event ≠ .closed ws) : ¬s.Newer relayDid ws' := by
  rintro ⟨relay, ws, hrelay, _, hws, hne⟩
  have hadmission {task : ℕ} (hfound : (s.admissions task).map (fun a => (a.relayDid, a.connection))
      = some (relayDid, ws')) : False := by
    obtain ⟨admission, hadmission, heq⟩ := Option.map_eq_some_iff.mp hfound
    cases heq
    rcases h.admissions task admission relay hadmission hrelay with hnone | hsame
    · rw [hws] at hnone
      cases hnone
    · rw [hws] at hsame
      exact hne (Option.some.inj hsame)
  cases event with
  | closed ws => exact hclosed ws rfl
  | healthTimedOut task => exact hadmission howner
  | cardTimedOut task => exact hadmission howner
  | admissionFailed task now => exact hadmission howner
  | probationExpired timer now =>
    obtain ⟨relay', hrelay', _, hws'⟩ := h.timers timer relayDid ws' howner
    rw [hrelay] at hrelay'
    cases hrelay'
    rw [hws] at hws'
    exact hne (Option.some.inj hws')
  | _ => cases howner

/-- **Events are scoped to their connection.**  In every scoped run, a close event, a probe's
timeout or error, and a probation timer leave a connection alone that is not their own. -/
theorem events_scoped (hstart : start.Starting)
    (hrun : Trace (ScopedStep config checks selfDid) start events s)
    (hstep : ScopedStep config checks selfDid s event s')
    (howner : s.owner event = some (relayDid, ws)) :
    s.Newer relayDid ws → Untouched relayDid s s' := by
  intro hnewer
  by_cases hclosed : ∃ ws', event = .closed ws'
  · obtain ⟨ws', hevent⟩ := hclosed
    exact absurd hnewer (hstep.2.1 ws' relayDid ws hevent howner)
  · push Not at hclosed
    exact absurd hnewer ((Scoped.run hstart hrun).current howner hclosed)

/-! ### Events that come all the same -/

/-- No connection with a relay is up. -/
def FederationState.Down (s : FederationState W A) (relayDid : String) : Prop :=
  ∀ relay, s.federatedRelays relayDid = some relay → relay.connected = false

theorem down_cleared (s : FederationState W A) (relayDid : String)
    (hf : ∀ relay, (f relay).connected = false) :
    ((s.modifyRelay relayDid f).clearProbationTimer relayDid).Down relayDid := by
  intro relay' hrelay'
  cases hentry : s.federatedRelays relayDid with
  | none =>
    have hnone : s.modifyRelay relayDid f = s := by rw [FederationState.modifyRelay, hentry]
    rw [hnone, FederationState.clearProbationTimer, hentry, Option.bind_none, hentry] at hrelay'
    cases hrelay'
  | some relay =>
    have hmodified : s.modifyRelay relayDid f = s.setRelay relayDid (f relay) := by
      rw [FederationState.modifyRelay, hentry]
      rfl
    have hnew : (s.setRelay relayDid (f relay)).federatedRelays relayDid = some (f relay) :=
      Function.update_self ..
    obtain ⟨timers, heq, _⟩ := clearProbationTimer_eq hnew
    rw [hmodified, heq] at hrelay'
    dsimp only at hrelay'
    rw [Function.update_self] at hrelay'
    obtain rfl := Option.some.inj hrelay'
    exact hf relay

theorem down_same (hdown : s.Down relayDid) (hsame : SameEntries s s') : s'.Down relayDid := by
  intro relay hrelay
  rw [hsame.federatedRelays] at hrelay
  exact hdown relay hrelay

theorem down_cut (s : FederationState W A) (relayDid : String) (rejected : Bool)
    (hf : ∀ relay, (f relay).connected = false) :
    ((((s.modifyRelay relayDid f).clearProbationTimer relayDid).clearPendingProbe relayDid
      rejected).removeRemoteAgentRoutesForRelay relayDid).Down relayDid := by
  have hdown := down_same (down_cleared s relayDid hf) (.clearPendingProbe _ relayDid rejected)
  exact fun relay hrelay => hdown relay hrelay

theorem down_markAdmissionFailure (s : FederationState W A) (relayDid : String) (now : ℕ) :
    (s.markAdmissionFailure config relayDid now).Down relayDid := by
  rw [FederationState.markAdmissionFailure]
  cases hentry : s.federatedRelays relayDid with
  | none =>
    intro relay hrelay
    rw [hentry] at hrelay
    cases hrelay
  | some relay =>
    exact down_same (down_cut _ relayDid true fun _ => rfl) (.closeRelaySocket _ relayDid)

theorem down_handleIncomingDisconnect (s : FederationState W A) (relayDid : String) :
    (s.handleIncomingDisconnect relayDid).Down relayDid := by
  rw [FederationState.handleIncomingDisconnect]
  cases hentry : s.federatedRelays relayDid with
  | none =>
    intro relay hrelay
    rw [hentry] at hrelay
    cases hrelay
  | some relay =>
    exact down_cut s relayDid false fun _ => rfl

theorem down_scheduleReconnection (hdown : s.Down relayDid) :
    (s.scheduleReconnection config relayDid).Down relayDid := by
  rw [FederationState.scheduleReconnection]
  cases hentry : s.federatedRelays relayDid with
  | none => exact hdown
  | some relay =>
    dsimp only
    split
    · exact hdown
    · split
      · intro relay' hrelay'
        change Function.update s.federatedRelays relayDid none relayDid = _ at hrelay'
        rw [Function.update_self] at hrelay'
        cases hrelay'
      · intro relay' hrelay'
        rw [FederationState.modifyRelay, hentry] at hrelay'
        dsimp only at hrelay'
        rw [Function.update_self] at hrelay'
        obtain rfl := Option.some.inj hrelay'
        exact hdown relay hentry

theorem down_handleRelayDisconnection (s : FederationState W A) (relayDid : String) :
    (s.handleRelayDisconnection config relayDid).Down relayDid := by
  rw [FederationState.handleRelayDisconnection]
  cases hentry : s.federatedRelays relayDid with
  | none =>
    intro relay hrelay
    rw [hentry] at hrelay
    cases hrelay
  | some relay =>
    exact down_scheduleReconnection (down_cut s relayDid true fun _ => rfl)

/-- **An event of a replaced connection takes the newer one down**: its close event, the error of
its admission, and its probation timer. -/
theorem newer_down (hstep : FederationStep config checks selfDid s event s')
    (howner : s.owner event = some (relayDid, ws))
    (hhealth : ∀ task, event ≠ .healthTimedOut task)
    (hcard : ∀ task, event ≠ .cardTimedOut task) : s'.Down relayDid := by
  cases hstep with
  | healthTimedOut _ _ => exact absurd rfl (hhealth _)
  | cardTimedOut _ _ => exact absurd rfl (hcard _)
  | admissionFailed hadmission _ =>
    rw [FederationState.owner, hadmission] at howner
    cases howner
    exact down_markAdmissionFailure _ _ _
  | probationExpired htimer =>
    rw [FederationState.owner, htimer] at howner
    cases howner
    exact down_markAdmissionFailure _ _ _
  | @closed ws' next _ _ =>
    obtain ⟨socket, hsocket, hdid⟩ := Option.bind_eq_some_iff.mp howner
    obtain ⟨did, hfound, heq⟩ := Option.map_eq_some_iff.mp hdid
    cases heq
    rw [hsocket]
    dsimp only
    rw [hfound]
    dsimp only
    split
    · exact down_handleIncomingDisconnect next relayDid
    · exact down_handleRelayDisconnection next relayDid
  | _ => cases howner

theorem not_untouched (hnewer : s.Newer relayDid ws) (hdown : s'.Down relayDid) :
    ¬Untouched relayDid s s' := by
  obtain ⟨relay, _, hrelay, hconnected, _, _⟩ := hnewer
  intro huntouched
  rw [hdown relay (huntouched.relay.trans hrelay)] at hconnected
  cases hconnected

theorem newer_registered (s : FederationState W A) (hne : ws ≠ ws') :
    ((s.registerFederatedRelay relayDid card ws source).scheduleAdmission relayDid ws).Newer
      relayDid ws' :=
  ⟨_, ws, relay_registerFederatedRelay s relayDid card ws source, rfl, rfl, hne⟩

end

/-! ### Runs of one relay -/

/-- The peer connects, its connection closes, and no other is touched. -/
theorem events_scoped_sample :
    ∃ s s' : FederationState Bool (String × Bool),
      s.owner (.closed true) = some (peerRelayDid, true) ∧
      (s.Newer peerRelayDid true → Untouched peerRelayDid s s') := by
  have hrun : Trace (ScopedStep DEFAULT_FEDERATION_CONFIG sampleChecks "did:agent:zRelayA")
    aloneRelay [] aloneRelay := .nil
  have haccepted := hrun.snoc ⟨@FederationStep.accepted _ _ _ _ _ _ _ true peerRelayDid peerCard []
    none 0 rfl rfl rfl rfl, nofun, nofun, nofun⟩
  refine ⟨_, _, by rfl, events_scoped aloneRelay_starting haccepted
    ⟨@FederationStep.closed _ _ _ _ _ _ _ true _ nofun rfl, ?_, nofun, nofun⟩ (by rfl)⟩
  rintro ws relayDid ws' hevent howner ⟨relay, ws'', hrelay, _, hws, hne⟩
  cases howner
  cases hrelay
  cases hws
  exact hne rfl

/-- The peer connects, and connects again. -/
theorem peer_connected_twice :
    ∃ events, ∃ s : FederationState Bool (String × Bool),
      Trace (FederationStep DEFAULT_FEDERATION_CONFIG sampleChecks "did:agent:zRelayA") aloneRelay
        events s ∧
      s.readyState true = .CLOSING ∧ s.owner (.closed true) = some (peerRelayDid, true) ∧
      s.Newer peerRelayDid true := by
  have hrun : Trace (FederationStep DEFAULT_FEDERATION_CONFIG sampleChecks "did:agent:zRelayA")
    aloneRelay [] aloneRelay := .nil
  have hfirst := hrun.snoc (@FederationStep.accepted _ _ _ _ _ _ _ true peerRelayDid peerCard []
    none 0 rfl rfl rfl rfl)
  have hsecond := hfirst.snoc (@FederationStep.accepted _ _ _ _ _ _ _ false peerRelayDid peerCard []
    none 0 (by rfl) (by rfl) rfl rfl)
  exact ⟨_, _, hsecond, by rfl, by rfl, newer_registered _ Bool.false_ne_true⟩

/-- **The close event of a replaced connection.**  When the first connection of the peer closes, the
second one is down. -/
theorem replaced_connection_closes :
    ∃ events, ∃ s s' : FederationState Bool (String × Bool),
      Trace (FederationStep DEFAULT_FEDERATION_CONFIG sampleChecks "did:agent:zRelayA") aloneRelay
        events s ∧
      FederationStep DEFAULT_FEDERATION_CONFIG sampleChecks "did:agent:zRelayA" s (.closed true)
        s' ∧
      s.owner (.closed true) = some (peerRelayDid, true) ∧ s.Newer peerRelayDid true ∧
      ¬Untouched peerRelayDid s s' := by
  obtain ⟨events, s, hrun, hclosing, howner, hnewer⟩ := peer_connected_twice
  have hopen : s.readyState true ≠ .CLOSED := by
    rw [hclosing]
    decide
  have hclosed := @FederationStep.closed Bool (String × Bool) _ DEFAULT_FEDERATION_CONFIG sampleChecks
    "did:agent:zRelayA" s true _ hopen rfl
  exact ⟨events, s, _, hrun, hclosed, howner, hnewer,
    not_untouched hnewer (newer_down hclosed howner nofun nofun)⟩

end QuadraA.Relay
