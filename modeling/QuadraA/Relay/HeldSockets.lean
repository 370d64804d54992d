import QuadraA.Relay.StrandedMessages

/-!
# Sockets that hold their DID

A connection knows the DID of its HELLO from the registration on.  While its socket is open, the
registry has the DID under this socket, and under the object that was registered with it.

* `Knows`, `Held` — the DIDs of the connections, and the invariant;
* `Held.step` — every step keeps it.
-/

set_option linter.unusedSectionVars false

namespace QuadraA.Relay

open QuadraA.Lib

section

variable {W : Type} [DecidableEq W]
variable {s s' start : ConnectionState W} {event : ConnectionEvent W}
  {events : List (ConnectionEvent W)} {did : String} {ref : ℕ} {ws : W}

/-- A connection that is authenticated under a DID, or has registered it. -/
def ConnectionState.Knows (s : ConnectionState W) (ws : W) (did : String) : Prop :=
  s.connections ws = ⟨some did, none⟩ ∨ s.connections ws = ⟨none, some (.registered did)⟩

/-- **An open socket holds its DID.** -/
structure Held (s : ConnectionState W) : Prop where
  live : s.Live
  held : ∀ ws did, s.Knows ws did → s.readyState ws = .OPEN → ∃ ref, s.Reaches did ref ws
  known : ∀ ws did, (s.connections ws).did = some did → s.connections ws = ⟨some did, none⟩

/-- A registration goes on under its socket, when only other things change. -/
theorem SameRegistration.reaches (h : SameRegistration s s') (hreaches : s.Reaches did ref ws)
    (hopen : s'.readyState ws = .OPEN) : s'.Reaches did ref ws :=
  ⟨h.registry ▸ hreaches.1, (h.agents ref).2.1.trans hreaches.2.1, hopen⟩

theorem reaches_setConnection {ws' : W} {connection : Connection}
    (hreaches : s.Reaches did ref ws) : (s.setConnection ws' connection).Reaches did ref ws :=
  hreaches

theorem reaches_modify {did' : String} {f : RegisteredAgent W → RegisteredAgent W}
    (hf : ∀ agent, (f agent).ws = agent.ws) (hreaches : s.Reaches did ref ws) :
    (s.modify did' f).Reaches did ref ws := by
  rw [ConnectionState.modify]
  split
  · exact hreaches
  · rename_i ref' _
    refine ⟨hreaches.1, ?_, hreaches.2.2⟩
    dsimp only
    by_cases href : ref = ref'
    · rw [href, Function.update_self, hf, ← href]
      exact hreaches.2.1
    · rw [Function.update_of_ne href]
      exact hreaches.2.1

/-- **A registration stays** that of its socket, while this is open. -/
theorem reaches_of_open (hlive : s.Live) (hstep : ConnectionStep s event s')
    (hreaches : s.Reaches did ref ws) (hknows : s.Knows ws did)
    (hopen : s'.readyState ws = .OPEN) : s'.Reaches did ref ws := by
  have honline : (s.agents ref).online = true :=
    (hlive did ref hreaches.1).2.2 (hreaches.2.1.symm ▸ hreaches.2.2)
  cases hstep with
  | helloReceived _ => exact hreaches
  | helloRejected _ => exact (SameRegistration.close _ _).reaches (reaches_setConnection hreaches) hopen
  | @registered ws' did' realm now hconnection _ =>
    -- the socket of this registration is not the new one
    have hws : ws ≠ ws' := by
      rintro rfl
      rcases hknows with hsome | hregistered
      · rw [hconnection] at hsome
        cases hsome
      · rw [hconnection] at hregistered
        cases hregistered
    refine (SameRegistration.recordPing _ _ _).reaches ?_ hopen
    have hopen := (SameRegistration.recordPing (ConnectionState.register
      (s.setConnection ws' ⟨none, some (.registered did')⟩) did' ws' realm now) did' now).opened ws hopen
    by_cases hdid : did' = did
    · -- its own DID: this socket is closed
      subst hdid
      rw [ConnectionState.register] at hopen
      have hget : (s.setConnection ws' ⟨none, some (.registered did')⟩).get did'
          = some (s.agents ref) := by
        rw [ConnectionState.get]
        show Option.map s.agents (s.registry did') = _
        rw [hreaches.1, Option.map_some]
      rw [hget] at hopen
      dsimp only at hopen
      rw [if_pos (hreaches.2.1 ▸ hws), readyState_close] at hopen
      rw [if_pos ⟨hreaches.2.1.symm, hreaches.2.1 ▸ hreaches.2.2⟩] at hopen
      cases hopen
    · obtain ⟨t, hsame, hregister⟩ := register_eq
        (s.setConnection ws' ⟨none, some (.registered did')⟩) did' realm ws' now
      rw [hregister] at hopen ⊢
      have ht := hsame.reaches (reaches_setConnection hreaches) hopen
      have hlt : ref ≠ t.count := by
        rw [hsame.count]
        exact Nat.ne_of_lt (hlive did ref hreaches.1).1
      refine ⟨?_, ?_, hopen⟩
      · dsimp only
        rw [Function.update_of_ne (Ne.symm hdid)]
        exact ht.1
      · dsimp only
        rw [Function.update_of_ne hlt]
        exact ht.2.1
  | helloEnded _ => exact hreaches
  | helloFailed _ => exact (SameRegistration.close _ _).reaches (reaches_setConnection hreaches) hopen
  | peerClosed => exact (SameRegistration.close _ _).reaches hreaches hopen
  | dropped => exact (SameRegistration.close _ _).reaches hreaches hopen
  | @closed ws' now next _ hnext =>
    have hentry : next.registry did = some ref ∧ (next.agents ref).ws = ws := by
      rw [hnext]
      exact ⟨hreaches.1, hreaches.2.1⟩
    split at hopen
    · rename_i did' hdid
      rw [ConnectionState.handleAgentDisconnect] at hopen
      change ((next.markOffline did' now).unpublish did').readyState ws = _ at hopen
      rw [ConnectionState.unpublish, readyState_modify, ConnectionState.markOffline,
        readyState_modify] at hopen
      exact reaches_modify (fun _ => rfl) (reaches_modify (fun _ => rfl)
        (show next.Reaches did ref ws from ⟨hentry.1, hentry.2, hopen⟩))
    · exact ⟨hentry.1, hentry.2, hopen⟩
  | pinged _ => exact (SameRegistration.recordPing _ _ _).reaches hreaches hopen
  | published _ => exact reaches_modify (fun _ => rfl) hreaches
  | unpublished _ => exact reaches_modify (fun _ => rfl) hreaches
  | subscribed _ => exact (SameRegistration.subscribe _ _ _ _).reaches hreaches hopen
  | unsubscribed => exact hreaches
  | @timedOut did' ts now _ _ =>
    rw [ConnectionState.handleTimeout] at hopen ⊢
    split
    · exact hreaches
    · rename_i agent hget
      rw [hget] at hopen
      have hclosed := (SameRegistration.close (s.removePing did') agent.ws).reaches
        (show (s.removePing did').Reaches did ref ws from hreaches) hopen
      by_cases hdid : did = did'
      · -- its own DID: this socket is closed
        subst hdid
        have hagent : agent = s.agents ref := by
          have hfound : Option.map s.agents (s.registry did) = some agent := hget
          rw [hreaches.1, Option.map_some] at hfound
          exact (Option.some.inj hfound).symm
        change ((s.removePing did).close agent.ws).readyState ws = _ at hopen
        rw [readyState_close, hagent, if_pos ⟨hreaches.2.1.symm, hreaches.2.1.symm ▸ hreaches.2.2⟩]
          at hopen
        cases hopen
      · refine ⟨?_, hclosed.2.1, hopen⟩
        show (Function.update ((s.removePing did').close agent.ws).registry did' none) did = some ref
        rw [Function.update_of_ne hdid]
        exact hclosed.1
  | @cleaned now =>
    refine ⟨?_, hreaches.2.1, hopen⟩
    rw [ConnectionState.cleanup]
    dsimp only
    have hget : s.get did = some (s.agents ref) := by
      rw [ConnectionState.get, hreaches.1, Option.map_some]
    rw [hget]
    dsimp only
    rw [if_neg fun h => by rw [honline] at h; cases h.1]
    exact hreaches.1
  | @deliveryFailed ref' _ =>
    refine ⟨hreaches.1, ?_, hreaches.2.2⟩
    dsimp only
    by_cases href : ref = ref'
    · rw [href, Function.update_self, ← href]
      exact hreaches.2.1
    · rw [Function.update_of_ne href]
      exact hreaches.2.1

/-- **What a HELLO does** to the variables of its connection. -/
theorem connection_of_hello (hstep : ConnectionStep s event s') (hhello : event.hello = some ws) :
    s'.connections ws = ⟨none, none⟩ ∨
      (∃ did, s'.connections ws = ⟨none, some (.verifying did)⟩) ∨
      (∃ did realm now, event = .registered ws realm now ∧
        s.connections ws = ⟨none, some (.verifying did)⟩ ∧
        s'.connections ws = ⟨none, some (.registered did)⟩) ∨
      ∃ did, s.connections ws = ⟨none, some (.registered did)⟩ ∧
        s'.connections ws = ⟨some did, none⟩ := by
  have hset (connection : Connection) :
      (s.setConnection ws connection).connections ws = connection := Function.update_self _ _ _
  have hclose (t : ConnectionState W) : (t.close ws).connections ws = t.connections ws := by
    rw [(SameRegistration.close t ws).connections]
  cases hstep with
  | @helloReceived ws' did _ =>
    obtain rfl := Option.some.inj hhello
    exact Or.inr (Or.inl ⟨did, hset _⟩)
  | helloRejected _ =>
    obtain rfl := Option.some.inj hhello
    exact Or.inl ((hclose _).trans (hset _))
  | @registered ws' did realm now hconnection _ =>
    obtain rfl := Option.some.inj hhello
    obtain ⟨t, hsame, hregister⟩ := register_eq
      (s.setConnection ws' ⟨none, some (.registered did)⟩) did realm ws' now
    refine Or.inr (Or.inr (Or.inl ⟨did, realm, now, rfl, hconnection, ?_⟩))
    rw [(SameRegistration.recordPing _ _ _).connections, hregister]
    show t.connections ws' = _
    rw [hsame.connections]
    exact hset _
  | @helloEnded ws' did hconnection =>
    obtain rfl := Option.some.inj hhello
    exact Or.inr (Or.inr (Or.inr ⟨did, hconnection, hset _⟩))
  | helloFailed _ =>
    obtain rfl := Option.some.inj hhello
    exact Or.inl ((hclose _).trans (hset _))
  | _ => cases hhello

/-- **What a connection knows** it knew before, or its HELLO registers it. -/
theorem knows_of_step (hstep : ConnectionStep s event s') (hknows : s'.Knows ws did) :
    s.Knows ws did ∨ ∃ realm now, event = .registered ws realm now ∧
      s.connections ws = ⟨none, some (.verifying did)⟩ := by
  by_cases hhello : event.hello = some ws
  · rcases connection_of_hello hstep hhello with hnone | ⟨_, hverifying⟩ |
      ⟨did', realm, now, hevent, hconnection, hregistered⟩ | ⟨did', hconnection, hended⟩
    · rw [ConnectionState.Knows, hnone] at hknows
      rcases hknows with h | h <;> cases h
    · rw [ConnectionState.Knows, hverifying] at hknows
      rcases hknows with h | h <;> cases h
    · rw [ConnectionState.Knows, hregistered] at hknows
      rcases hknows with h | h
      · cases h
      · cases h
        exact Or.inr ⟨realm, now, hevent, hconnection⟩
    · rw [ConnectionState.Knows, hended] at hknows
      rcases hknows with h | h
      · cases h
        exact Or.inl (Or.inr hconnection)
      · cases h
  · rw [ConnectionState.Knows, (SameSockets.step hstep).connections ws hhello] at hknows
    exact Or.inl hknows

theorem reaches_registered {realm : String} {now : ℕ}
    (hstep : ConnectionStep s (.registered ws realm now) s')
    (hconnection : s.connections ws = ⟨none, some (.verifying did)⟩)
    (hopen : s'.readyState ws = .OPEN) : s'.Reaches did s.count ws := by
  cases hstep with
  | @registered _ did' _ _ hconnection' _ =>
    rw [hconnection] at hconnection'
    obtain rfl : did = did' := by simpa using hconnection'
    refine (SameRegistration.recordPing _ _ _).reaches ?_ hopen
    have hopen := (SameRegistration.recordPing (ConnectionState.register
      (s.setConnection ws ⟨none, some (.registered did)⟩) did ws realm now) did now).opened ws hopen
    obtain ⟨t, hsame, hregister⟩ := register_eq
      (s.setConnection ws ⟨none, some (.registered did)⟩) did realm ws now
    have hcount : t.count = s.count := hsame.count
    rw [hregister] at hopen ⊢
    refine ⟨?_, ?_, hopen⟩
    · dsimp only
      rw [Function.update_self, hcount]
    · dsimp only
      rw [← hcount, Function.update_self]

theorem Held.step (h : Held s) (hstep : ConnectionStep s event s') (houtlives : s.Outlives event) :
    Held s' := by
  refine ⟨(h.live.step hstep houtlives).1, fun ws did hknows hopen => ?_, fun ws did hdid => ?_⟩
  · rcases knows_of_step hstep hknows with hbefore | ⟨realm, now, rfl, hconnection⟩
    · obtain ⟨ref, hreaches⟩ := h.held ws did hbefore ((SameSockets.step hstep).opened ws hopen)
      exact ⟨ref, reaches_of_open h.live hstep hreaches hbefore hopen⟩
    · exact ⟨s.count, reaches_registered hstep hconnection hopen⟩
  · by_cases hhello : event.hello = some ws
    · rcases connection_of_hello hstep hhello with hnone | ⟨_, hverifying⟩ |
        ⟨_, _, _, _, _, hregistered⟩ | ⟨did', _, hended⟩
      · rw [hnone] at hdid
        cases hdid
      · rw [hverifying] at hdid
        cases hdid
      · rw [hregistered] at hdid
        cases hdid
      · rw [hended] at hdid ⊢
        cases hdid
        rfl
    · have hsame := (SameSockets.step hstep).connections ws hhello
      rw [hsame] at hdid ⊢
      exact h.known ws did hdid

theorem Held.of_starting (h : start.Starting) : Held start := by
  refine ⟨fun did ref hentry => ?_, fun ws did hknows _ => ?_, fun ws did hdid => ?_⟩
  · rw [h.registry] at hentry
    cases hentry
  · rw [ConnectionState.Knows, h.connections] at hknows
    rcases hknows with h | h <;> cases h
  · rw [h.connections] at hdid
    cases hdid

end

end QuadraA.Relay
