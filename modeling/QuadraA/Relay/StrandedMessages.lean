import QuadraA.Relay.AckedMessages

/-!
# Messages of a connected recipient

A message is sent by the `handleSend` that has stored it, by the HELLO flush that finds it in the
queue, or by a later retry pass.  The registration that `handleSend` has looked up may be another
one than that of the recipient when the message is stored: the flush of the new connection has taken
its snapshot then, and nobody sends the message.

* `none_stranded` — the messages of a connected recipient, in every careful run;
* `stranded_message` — a message is stored after the flush of its recipient.
-/

set_option linter.unusedSectionVars false

namespace QuadraA.Relay

open QuadraA.Lib

/-! ### Reachable agents -/

section

variable {W : Type} [DecidableEq W]
variable {s s' : ConnectionState W} {event : ConnectionEvent W} {did : String} {ref : ℕ} {ws : W}

/-- The registry has a DID under an open socket. -/
def ConnectionState.Reaches (s : ConnectionState W) (did : String) (ref : ℕ) (ws : W) : Prop :=
  s.registry did = some ref ∧ (s.agents ref).ws = ws ∧ s.readyState ws = .OPEN

/-- **An agent under an open socket is online.** -/
def ConnectionState.Live (s : ConnectionState W) : Prop :=
  ∀ did ref, s.registry did = some ref → ref < s.count ∧ (s.agents ref).did = did ∧
    (s.readyState (s.agents ref).ws = .OPEN → (s.agents ref).online = true)

/-- No agent becomes reachable, and none that is reachable goes offline. -/
structure Narrows (s s' : ConnectionState W) : Prop where
  registry : ∀ did ref, s'.registry did = some ref → s.registry did = some ref
  agents : ∀ ref, (s'.agents ref).did = (s.agents ref).did ∧ (s'.agents ref).ws = (s.agents ref).ws
  count : s'.count = s.count
  readyState : ∀ ws, s'.readyState ws = .OPEN → s.readyState ws = .OPEN
  online : ∀ did ref ws, s'.Reaches did ref ws →
    (s'.agents ref).online = (s.agents ref).online

theorem Narrows.reaches (h : Narrows s s') (hreaches : s'.Reaches did ref ws) :
    s.Reaches did ref ws :=
  ⟨h.registry did ref hreaches.1, (h.agents ref).2.symm.trans hreaches.2.1,
    h.readyState ws hreaches.2.2⟩

theorem Narrows.trans {s'' : ConnectionState W} (h : Narrows s s') (h' : Narrows s' s'') :
    Narrows s s'' :=
  ⟨fun did ref hentry => h.registry did ref (h'.registry did ref hentry),
    fun ref => ⟨(h'.agents ref).1.trans (h.agents ref).1, (h'.agents ref).2.trans (h.agents ref).2⟩,
    h'.count.trans h.count, fun ws hopen => h.readyState ws (h'.readyState ws hopen),
    fun did ref ws hreaches =>
      (h'.online did ref ws hreaches).trans (h.online did ref ws (h'.reaches hreaches))⟩

theorem Narrows.of_same (h : SameRegistration s s') : Narrows s s' :=
  ⟨fun _ _ hentry => h.registry ▸ hentry, fun ref => ⟨(h.agents ref).1, (h.agents ref).2.1⟩,
    h.count, h.opened, fun _ ref _ _ => (h.agents ref).2.2⟩

theorem Narrows.live (h : Narrows s s') (hlive : s.Live) : s'.Live := by
  intro did ref hentry
  obtain ⟨hlt, hdid, honline⟩ := hlive did ref (h.registry did ref hentry)
  refine ⟨h.count.symm ▸ hlt, (h.agents ref).1.trans hdid, fun hopen => ?_⟩
  rw [h.online did ref _ ⟨hentry, rfl, hopen⟩]
  rw [(h.agents ref).2] at hopen
  exact honline (h.readyState _ hopen)

/-- Entries go. -/
theorem Narrows.unregister (s : ConnectionState W) {registry : String → Option ℕ}
    (hkept : ∀ did ref, registry did = some ref → s.registry did = some ref) :
    Narrows s { s with registry := registry } :=
  ⟨hkept, fun _ => ⟨rfl, rfl⟩, rfl, fun _ h => h, fun _ _ _ _ => rfl⟩

/-- An agent goes offline whose socket is not open. -/
theorem Narrows.offline (s : ConnectionState W) {ref : ℕ} {agent : RegisteredAgent W}
    (hagent : agent.did = (s.agents ref).did ∧ agent.ws = (s.agents ref).ws)
    (hclosed : ∀ did ws, s.Reaches did ref ws → False) :
    Narrows s { s with agents := Function.update s.agents ref agent } := by
  refine ⟨fun _ _ h => h, fun ref' => ?_, rfl, fun _ h => h, fun did ref' ws hreaches => ?_⟩
  · by_cases href : ref' = ref
    · rw [href]
      dsimp only
      rw [Function.update_self]
      exact hagent
    · dsimp only
      rw [Function.update_of_ne href]
      exact ⟨rfl, rfl⟩
  · dsimp only [ConnectionState.Reaches] at hreaches ⊢
    by_cases href : ref' = ref
    · subst href
      rw [Function.update_self, hagent.2] at hreaches
      exact (hclosed did ws hreaches).elim
    · rw [Function.update_of_ne href]

theorem Narrows.closed (s : ConnectionState W) (ws : W) :
    Narrows s { s with readyState := Function.update s.readyState ws .CLOSED } := by
  refine ⟨fun _ _ h => h, fun _ => ⟨rfl, rfl⟩, rfl, fun ws' hopen => ?_, fun _ _ _ _ => rfl⟩
  dsimp only at hopen
  rcases update_apply_eq_iff.mp hopen with ⟨_, hopen⟩ | ⟨_, hopen⟩
  · cases hopen
  · exact hopen

/-- The close event of a socket whose DID is not registered under another open one. -/
theorem Narrows.disconnected (hlive : s.Live) {ws : W} {did : String} {now : ℕ}
    (hcareful : ∀ ref ws', s.Reaches did ref ws' → ws' = ws) :
    Narrows s (ConnectionState.handleAgentDisconnect
      { s with readyState := Function.update s.readyState ws .CLOSED } did now) := by
  have hclosed := Narrows.closed s ws
  generalize hnext : ({ s with readyState := Function.update s.readyState ws .CLOSED } :
    ConnectionState W) = next at hclosed
  have hoffline : Narrows next (next.markOffline did now) := by
    rw [ConnectionState.markOffline, ConnectionState.modify]
    cases hentry : next.registry did with
    | none => exact .of_same (.of_eq rfl rfl rfl rfl rfl rfl)
    | some ref =>
      refine .offline next ⟨rfl, rfl⟩ fun did' ws' hreaches => ?_
      obtain rfl : did' = did := by
        rw [← ((hclosed.live hlive) did' ref hreaches.1).2.1,
          ((hclosed.live hlive) did ref hentry).2.1]
      obtain rfl := hcareful ref ws' (hclosed.reaches hreaches)
      have hopen := hreaches.2.2
      rw [← hnext] at hopen
      dsimp only at hopen
      rw [Function.update_self] at hopen
      cases hopen
  have hunpublished : Narrows (next.markOffline did now) ((next.markOffline did now).unpublish did)
    := .of_same (.modify _ did fun _ => ⟨rfl, rfl, rfl⟩)
  exact ((hclosed.trans hoffline).trans hunpublished).trans
    (.of_same (.of_eq rfl rfl rfl rfl rfl rfl))

/-- **The condition on the connections.**  The close event of a replaced socket does not come while
its DID is registered under an open one. -/
def ConnectionState.Outlives (s : ConnectionState W) : ConnectionEvent W → Prop
  | .closed ws _ => ∀ did ref ws', (s.connections ws).did = some did →
      s.Reaches did ref ws' → ws' = ws
  | _ => True

/-- **Only a registration makes an agent reachable.** -/
theorem narrows_of_step (hlive : s.Live) (hstep : ConnectionStep s event s')
    (houtlives : s.Outlives event) (hregister : ∀ ws realm now, event ≠ .registered ws realm now) :
    Narrows s s' := by
  have hconnection {ws : W} {connection : Connection} :
      Narrows s (s.setConnection ws connection) :=
    ⟨fun _ _ h => h, fun _ => ⟨rfl, rfl⟩, rfl, fun _ h => h, fun _ _ _ _ => rfl⟩
  cases hstep with
  | helloReceived _ => exact hconnection
  | helloRejected _ => exact hconnection.trans (.of_same (.close _ _))
  | registered _ _ => exact absurd rfl (hregister _ _ _)
  | helloEnded _ => exact hconnection
  | helloFailed _ => exact hconnection.trans (.of_same (.close _ _))
  | peerClosed => exact .of_same (.close _ _)
  | dropped => exact .of_same (.close _ _)
  | @closed ws now next _ hnext =>
    subst hnext
    cases hdid : (s.connections ws).did with
    | some did => exact .disconnected hlive fun ref ws' => houtlives did ref ws' hdid
    | none => exact .closed s ws
  | pinged _ => exact .of_same (.recordPing _ _ _)
  | published _ => exact .of_same (.modify _ _ fun _ => ⟨rfl, rfl, rfl⟩)
  | unpublished _ => exact .of_same (.modify _ _ fun _ => ⟨rfl, rfl, rfl⟩)
  | subscribed _ => exact .of_same (.subscribe _ _ _ _)
  | unsubscribed => exact .of_same (.of_eq rfl rfl rfl rfl rfl rfl)
  | @timedOut did ts now _ _ =>
    have hremoved : Narrows s (s.removePing did) := .of_same (.of_eq rfl rfl rfl rfl rfl rfl)
    rw [ConnectionState.handleTimeout]
    split
    · exact hremoved
    · refine (hremoved.trans (.of_same (.close _ _))).trans (.unregister _ fun did' ref hkept => ?_)
      rcases update_apply_eq_iff.mp hkept with ⟨_, hkept⟩ | ⟨_, hkept⟩
      · cases hkept
      · exact hkept
  | cleaned =>
    refine .unregister s fun did ref hkept => ?_
    split at hkept
    · split at hkept
      · cases hkept
      · exact hkept
    · cases hkept
  | deliveryFailed hfailed =>
    exact .offline s ⟨rfl, rfl⟩ fun did ws hreaches => hfailed (hreaches.2.1 ▸ hreaches.2.2)

/-- **A registration** makes its own agent reachable, and no other. -/
theorem reaches_register {realm : String} {did' : String} {ws' : W} {now : ℕ} (hlive : s.Live) :
    (s.register did' ws' realm now).Live ∧
      ∀ did ref ws, (s.register did' ws' realm now).Reaches did ref ws →
        s.Reaches did ref ws ∨ did = did' ∧ ws = ws' := by
  obtain ⟨t, hsame, hregister⟩ := register_eq s did' realm ws' now
  have ht := (Narrows.of_same hsame).live hlive
  rw [hregister]
  refine ⟨fun did ref hentry => ?_, fun did ref ws hreaches => ?_⟩
  · dsimp only at hentry ⊢
    rcases update_apply_eq_iff.mp hentry with ⟨hdid, hentry⟩ | ⟨_, hentry⟩
    · obtain rfl := Option.some.inj hentry
      rw [Function.update_self]
      exact ⟨Nat.lt_succ_self _, hdid.symm, fun _ => rfl⟩
    · obtain ⟨hlt, hrest⟩ := ht did ref hentry
      rw [Function.update_of_ne (Nat.ne_of_lt hlt)]
      exact ⟨Nat.lt_succ_of_lt hlt, hrest⟩
  · obtain ⟨hentry, hws, hopen⟩ := hreaches
    dsimp only at hentry hws hopen
    rcases update_apply_eq_iff.mp hentry with ⟨hdid, hentry⟩ | ⟨_, hentry⟩
    · obtain rfl := Option.some.inj hentry
      rw [Function.update_self] at hws
      exact Or.inr ⟨hdid, hws.symm⟩
    · rw [Function.update_of_ne (Nat.ne_of_lt (ht did ref hentry).1)] at hws
      exact Or.inl ((Narrows.of_same hsame).reaches ⟨hentry, hws, hopen⟩)

theorem ConnectionState.Live.step (hlive : s.Live) (hstep : ConnectionStep s event s')
    (houtlives : s.Outlives event) :
    s'.Live ∧ ∀ did ref ws, s'.Reaches did ref ws → s.Reaches did ref ws ∨
      ∃ realm now, event = .registered ws realm now ∧
        s.connections ws = ⟨none, some (.verifying did)⟩ := by
  by_cases hregister : ∀ ws realm now, event ≠ .registered ws realm now
  · have hnarrows := narrows_of_step hlive hstep houtlives hregister
    exact ⟨hnarrows.live hlive, fun did ref ws hreaches => Or.inl (hnarrows.reaches hreaches)⟩
  · push Not at hregister
    obtain ⟨ws', realm, now, rfl⟩ := hregister
    cases hstep with
    | @registered _ did' _ _ hverifying _ =>
      have hconnection : Narrows s (s.setConnection ws' ⟨none, some (.registered did')⟩) :=
        ⟨fun _ _ h => h, fun _ => ⟨rfl, rfl⟩, rfl, fun _ h => h, fun _ _ _ _ => rfl⟩
      obtain ⟨hregistered, hback⟩ := @reaches_register _ _ _ realm did' ws' now
        (hconnection.live hlive)
      have hpinged := Narrows.of_same (SameRegistration.recordPing (ConnectionState.register
        (s.setConnection ws' ⟨none, some (.registered did')⟩) did' ws' realm now) did' now)
      refine ⟨hpinged.live hregistered, fun did ref ws hreaches => ?_⟩
      rcases hback did ref ws (hpinged.reaches hreaches) with hbefore | ⟨rfl, rfl⟩
      · exact Or.inl (hconnection.reaches hbefore)
      · exact Or.inr ⟨realm, now, rfl, hverifying⟩

end

section

variable {W T : Type} [DecidableEq W] [DecidableEq T]
variable {config : MessageQueueConfig} {relayDid : String}
variable {s s' start : RelayState W T} {event : RelayEvent W T} {events : List (RelayEvent W T)}
  {task : T} {phase : RelayTask W} {key : String} {message : QueuedMessage} {did : String}
  {ref : ℕ} {ws : W}

/-! ### Messages under way -/

/-- **The condition of a step.**  A close event is about the open socket of its DID; a message is
stored with the registration that has its recipient under an open socket then, if one has; and a
`markInflight` still finds its message in the queue when it writes. -/
def PromptStep (config : MessageQueueConfig) (relayDid : String) (s : RelayState W T)
    (event : RelayEvent W T) (s' : RelayState W T) : Prop :=
  RelayStep config relayDid s event s' ∧
    (∀ event', event.Carries event' → s.conn.Outlives event') ∧
    (∀ task sender target message size ref ws, event = .stored task message →
      s.tasks task = some (.counted sender target message size) →
        s.conn.Reaches message.toDid ref ws → target = some ref) ∧
    ∀ task now messageId did copy rest, event = .markWritten task now →
      s.tasks task = some (.marking messageId did (some copy) rest) →
        ∃ record message, s.db.get? (queueKey did messageId) = some record ∧
          Outstanding record.status ∧ normalizeQueuedMessage record = some message

/-- **A task is about to send a message** on the socket of a registration. -/
def RelayTask.Delivers (ref : ℕ) (ws : W) (key : String) : RelayTask W → Prop
  | .stored _ target message => target = some ref ∧ message.key = key
  | .flushing ws' _ messages => ws' = ws ∧ ∃ message ∈ messages, message.key = key
  | .marking _ _ _ (.flush ws' _ messages) => ws' = ws ∧ ∃ message ∈ messages, message.key = key
  | _ => False

/-- A message was sent on a socket, or a task is about to send it there. -/
def RelayState.Serves (events : List (RelayEvent W T)) (s : RelayState W T) (ref : ℕ) (ws : W)
    (key : String) : Prop :=
  (∃ event ∈ events, event.sends = some (ws, key)) ∨
    ∃ task phase, s.tasks task = some phase ∧ phase.Delivers ref ws key

theorem delivers_task {rest : AfterMark W} {messageId : String} {read : Option QueuedMessage}
    (h : (RelayTask.marking messageId did read rest).Delivers ref ws key) :
    ∃ phase, rest.task = some phase ∧ phase.Delivers ref ws key := by
  cases rest with
  | flush ws' did' messages => exact ⟨_, rfl, h⟩
  | _ => exact h.elim

/-- **A message under way** to a reachable agent is sent, or stays under way. -/
theorem RelayState.Serves.step (h : s.Serves events ref ws key) (hlive : s.conn.Live)
    (hreaches : s.conn.Reaches did ref ws) (hreaches' : s'.conn.Reaches did ref ws)
    (hstep : RelayStep config relayDid s event s') :
    s'.Serves (events ++ [event]) ref ws key := by
  obtain ⟨hentry, hws, hopen⟩ := hreaches
  rcases h with ⟨sent, hmem, hsends⟩ | ⟨task, phase, htask, hdelivers⟩
  · exact Or.inl ⟨sent, List.mem_append_left _ hmem, hsends⟩
  by_cases hmine : event.task = some task
  swap
  · exact Or.inr ⟨task, phase, (tasks_of_step hstep hmine).trans htask, hdelivers⟩
  -- the phase is one that is about to send
  have hphase {phase' : RelayTask W} (hphase' : s.tasks task = some phase') :
      phase'.Delivers ref ws key := Option.some.inj (htask.symm.trans hphase') ▸ hdelivers
  have hgo {db : MessageDb} {next : Option (RelayTask W)} {phase' : RelayTask W}
      (hnext : next = some phase') (hphase' : phase'.Delivers ref ws key) :
      RelayState.Serves (events ++ [event]) ({ s with db := db }.setTask task next) ref ws key :=
    Or.inr ⟨task, phase', (Function.update_self ..).trans hnext, hphase'⟩
  have hsent (hsends : event.sends = some (ws, key)) : s'.Serves (events ++ [event]) ref ws key :=
    Or.inl ⟨event, List.mem_append_right _ List.mem_cons_self, hsends⟩
  have honline := (hlive did ref hentry).2.2 (hws ▸ hopen)
  cases hstep with
  | connection => cases hmine
  | sendReceived hnone | retryStarted hnone | ackReceived hnone | cleanupStarted hnone
  | registered hnone =>
    cases hmine
    rw [htask] at hnone
    cases hnone
  | refused htask' | federated htask' | handled htask' | queueFull htask' | stored htask'
  | retryDelivered htask' | retryExpiring htask' | retrySkipped htask' | retryEnded htask'
  | expireRead htask' | expireFailed htask' | expireWritten htask' | expireReported htask'
  | ackRead htask' | ackFailed htask' | ackDeleted htask' | ackReturned htask' | cleaned htask'
  | cleanupEnded htask' =>
    cases hmine
    exact (hphase htask').elim
  | acceptedOffline htask' hoffline =>
    cases hmine
    have htarget := (hphase htask').1
    rw [hoffline ref htarget] at honline
    cases honline
  | acceptedClosed htask' _ hclosed =>
    cases hmine
    obtain ⟨htarget, _⟩ := hphase htask'
    obtain rfl := Option.some.inj htarget
    cases hclosed with
    | deliveryFailed hnotOpen => exact absurd (hws ▸ hopen) hnotOpen
  | acceptedOpen htask' =>
    cases hmine
    obtain ⟨htarget, hkey⟩ := hphase htask'
    obtain rfl := Option.some.inj htarget
    exact hsent (by rw [RelayEvent.sends, hws, hkey])
  | @markRead _ _ _ rest _ _ htask' =>
    cases hmine
    have hrest := hphase htask'
    cases rest with
    | flush ws' did' messages => exact hgo rfl hrest
    | _ => exact hrest.elim
  | markFailed htask' | markWritten htask' =>
    cases hmine
    obtain ⟨phase', hnext, hphase'⟩ := delivers_task (hphase htask')
    exact hgo hnext hphase'
  | @flushDelivered _ _ _ first messages htask' =>
    cases hmine
    obtain ⟨rfl, message, hmem, hkey⟩ := hphase htask'
    rcases List.mem_cons.mp hmem with rfl | hrest
    · exact hsent (by rw [hopen, RelayEvent.sends.eq_def]; simp [hkey])
    · exact hgo rfl ⟨rfl, message, hrest, hkey⟩
  | helloEnded htask' =>
    cases hmine
    obtain ⟨_, message, hmem, _⟩ := hphase htask'
    cases hmem
  | helloFailed htask' hfailed =>
    cases hmine
    obtain ⟨rfl, _⟩ := hphase htask'
    have hopen' := hreaches'.2.2
    cases hfailed with
    | helloFailed _ =>
      dsimp only [RelayState.setTask] at hopen'
      rw [readyState_close, if_pos ⟨rfl, hopen⟩] at hopen'
      cases hopen'

/-! ### Records -/

/-- **Where a record comes from**: it was there before, `enqueue` has stored it, or `markInflight`
has written it back. -/
theorem record_of_step (hstep : RelayStep config relayDid s event s')
    {record : StoredQueuedMessage} (hget : s'.db.get? key = some record)
    (houtstanding : Outstanding record.status) :
    s.db.get? key = some record ∨
      (∃ task sender target message size, event = .stored task message ∧ message.key = key ∧
        record = message.stored ∧ s.tasks task = some (.counted sender target message size) ∧
        s'.conn = s.conn ∧ s'.tasks task = some (.stored sender target message)) ∨
      ∃ task now messageId did copy rest, event = .markWritten task now ∧
        s.tasks task = some (.marking messageId did (some copy) rest) ∧
        queueKey did messageId = key := by
  have hset {key' : String} {written : StoredQueuedMessage} (hdb : s'.db = s.db.set key' written) :
      key' = key ∧ written = record ∨ s.db.get? key = some record := by
    rw [hdb, Record.get?_set] at hget
    split at hget
    · exact Or.inl ⟨‹_›, Option.some.inj hget⟩
    · exact Or.inr hget
  rcases db_of_step hstep with hdb | ⟨_, _, _, _, _, hdb⟩ |
    ⟨task, sender, target, message, size, rfl, htask, _, hdb⟩ |
    ⟨task, now, messageId, did, copy, rest, hevent, htask, hdb⟩ | ⟨_, _, _, _, _, _, hdb⟩
  · exact Or.inl (hdb ▸ hget)
  · rw [hdb, Record.get?_erase] at hget
    split at hget
    · cases hget
    · exact Or.inl hget
  · rcases hset hdb with ⟨hkey, hrecord⟩ | hold
    · refine Or.inr (Or.inl ⟨task, sender, target, message, size, rfl, hkey, hrecord.symm, htask,
        ?_⟩)
      cases hstep with
      | stored hcounted =>
        rw [htask] at hcounted
        cases hcounted
        exact ⟨rfl, setTask_self⟩
    · exact Or.inl hold
  · rcases hset hdb with ⟨hkey, _⟩ | hold
    · exact Or.inr (Or.inr ⟨task, now, messageId, did, copy, rest, hevent, htask, hkey⟩)
    · exact Or.inl hold
  · rcases hset hdb with ⟨_, rfl⟩ | hold
    · rcases houtstanding with hqueued | hinflight
      · cases hqueued
      · cases hinflight
    · exact Or.inl hold

/-! ### Connected recipients -/

/-- **Every message of a connected recipient is served.** -/
structure Attended (events : List (RelayEvent W T)) (s : RelayState W T) : Prop where
  keyed : s.Keyed
  live : s.conn.Live
  served : ∀ did ref ws key record message, s.conn.Reaches did ref ws →
    s.db.get? key = some record → record.toDid = did → Outstanding record.status →
      normalizeQueuedMessage record = some message → s.Serves events ref ws key

/-- The flush of a new connection has every message of its DID on its list. -/
theorem served_registered (hkeyed : s.Keyed) {ws : W} {realm : String} {now : ℕ}
    (hstep : RelayStep config relayDid s (.registered task ws realm now) s')
    (hverifying : s.conn.connections ws = ⟨none, some (.verifying did)⟩)
    {record : StoredQueuedMessage} (hget : s.db.get? key = some record)
    (hto : record.toDid = did) (houtstanding : Outstanding record.status)
    (hmessage : normalizeQueuedMessage record = some message) (ref : ℕ) :
    s'.Serves (events ++ [.registered task ws realm now]) ref ws key := by
  have hkey := (hkeyed.read hget hmessage).1
  cases hstep with
  | @registered _ _ did' _ _ _ _ hverifying' _ =>
    obtain rfl : did' = did := by
      rw [hverifying] at hverifying'
      cases hverifying'
      rfl
    refine Or.inr ⟨task, _, Function.update_self .., rfl, message, ?_, hkey.symm⟩
    refine mem_getQueuedMessages.mpr ⟨key, record, hget, ?_, houtstanding, hmessage⟩
    rw [(hkeyed.records key record hget).1, StoredQueuedMessage.key, hto]
    exact startsWithDid_queueKey _ _

theorem Attended.step (h : Attended events s) (hstep : PromptStep config relayDid s event s') :
    Attended (events ++ [event]) s' := by
  have hkeyed := h.keyed.step hstep.1
  refine ⟨hkeyed, ?_, fun did ref ws key record message hreaches hget hto houtstanding hmessage =>
    ?_⟩
  · rcases conn_of_step hstep.1 with hsame | ⟨event', hcarries, hconn⟩
    · rw [hsame]
      exact h.live
    · exact (h.live.step hconn (hstep.2.1 event' hcarries)).1
  rcases record_of_step hstep.1 hget houtstanding with hbefore |
    ⟨task, sender, target, stored, size, rfl, hkey, rfl, hcounted, hconn, htask⟩ |
    ⟨task, now, messageId, did', copy, rest, rfl, hmarking, hkey⟩
  · -- the record is an old one: its recipient was reachable, or registers now
    have hcases : s.conn.Reaches did ref ws ∨ ∃ task realm now,
        event = .registered task ws realm now ∧
          s.conn.connections ws = ⟨none, some (.verifying did)⟩ := by
      rcases conn_of_step hstep.1 with hsame | ⟨event', hcarries, hconn⟩
      · exact Or.inl (hsame ▸ hreaches)
      · rcases (h.live.step hconn (hstep.2.1 event' hcarries)).2 did ref ws hreaches with hold |
          ⟨realm, now, rfl, hverifying⟩
        · exact Or.inl hold
        · refine Or.inr ?_
          cases event with
          | registered task ws' realm' now' =>
            cases hcarries
            exact ⟨task, realm, now, rfl, hverifying⟩
          | connection event' =>
            obtain ⟨rfl, hjoint⟩ := hcarries
            cases hjoint
          | helloEnded task ws' => cases hcarries
          | helloFailed task ws' => cases hcarries
          | accepted task message' reported delivered =>
            cases delivered with
            | none =>
              obtain ⟨_, hfailed⟩ := hcarries
              cases hfailed
            | some _ => exact hcarries.elim
          | _ => exact hcarries.elim
    rcases hcases with hold | ⟨task, realm, now, rfl, hverifying⟩
    · exact (h.served did ref ws key record message hold hbefore hto houtstanding hmessage).step
        h.live hold hreaches hstep.1
    · exact served_registered h.keyed hstep.1 hverifying hbefore hto houtstanding hmessage ref
  · -- the registration that the SEND has looked up is this one
    obtain rfl : stored.toDid = did := hto
    rw [hconn] at hreaches
    have htarget := hstep.2.2.1 task sender target stored size ref ws rfl hcounted hreaches
    exact Or.inr ⟨task, _, htask, htarget, hkey⟩
  · -- the record was there before
    obtain ⟨record', message', hget', houtstanding', hmessage'⟩ :=
      hstep.2.2.2 task now messageId did' copy rest rfl hmarking
    rw [hkey] at hget'
    have hconn : s'.conn = s.conn := by
      cases hstep.1
      rfl
    have hbefore := hconn ▸ hreaches
    have hto' : record'.toDid = did := by
      obtain ⟨hkey', hdrawn'⟩ := h.keyed.records key record' hget'
      obtain ⟨hkey'', hdrawn''⟩ := hkeyed.records key record hget
      have hsame := queueKey_inj (h.keyed.drawn _ hdrawn') (hkeyed.drawn _ hdrawn'')
        (hkey'.symm.trans hkey'')
      exact hsame.1.trans hto
    exact (h.served did ref ws key record' message' hbefore hget' hto' houtstanding'
      hmessage').step h.live hbefore hreaches hstep.1

theorem Attended.run (hstart : start.Starting)
    (hrun : Trace (PromptStep config relayDid) start events s) : Attended events s := by
  induction hrun with
  | nil =>
    have hnone {did : String} {ref : ℕ} : start.conn.registry did ≠ some ref := by
      rw [hstart.conn.registry]
      nofun
    exact ⟨.of_starting hstart, fun did ref hentry => absurd hentry hnone,
      fun did ref ws key record message hreaches => absurd hreaches.1 hnone⟩
  | snoc _ hlast ih => exact ih.step hlast

/-- **No message is stranded.**  In every careful run, whenever no task is running, each message in
the queue whose recipient is registered with an open socket was sent on that socket. -/
theorem none_stranded (hstart : start.Starting)
    (hrun : Trace (PromptStep config relayDid) start events s)
    (hidle : ∀ task, s.tasks task = none) (hentry : s.conn.registry did = some ref)
    (hopen : s.conn.readyState (s.conn.agents ref).ws = .OPEN) {record : StoredQueuedMessage}
    (hget : s.db.get? key = some record) (hto : record.toDid = did)
    (houtstanding : Outstanding record.status)
    (hmessage : normalizeQueuedMessage record = some message) :
    ∃ event ∈ events, event.sends = some ((s.conn.agents ref).ws, key) := by
  have hserved := (Attended.run hstart hrun).served did ref _ key record message
    ⟨hentry, rfl, hopen⟩ hget hto houtstanding hmessage
  rcases hserved with hsent | ⟨task, phase, htask, _⟩
  · exact hsent
  · rw [hidle] at htask
    cases htask

end

/-! ### Runs of one relay -/

/-- Bob connects, and the message that has waited for him is sent on his socket. -/
theorem none_stranded_sample :
    ∃ events, ∃ s : RelayState Bool Bool,
      Trace (PromptStep DEFAULT_CONFIG "did:agent:zRelay") bobWaits events s ∧
      ∃ event ∈ events, event.sends = some (true, bobMessage.key) := by
  have hrun : Trace (PromptStep DEFAULT_CONFIG "did:agent:zRelay") bobWaits [] bobWaits := .nil
  have hreceived := hrun.snoc ⟨.connection
    (@ConnectionStep.helloReceived _ _ _ true "did:agent:zBob" rfl) rfl,
    by rintro _ ⟨rfl, _⟩; trivial, nofun, nofun⟩
  have hregistered := hreceived.snoc ⟨@RelayStep.registered _ _ _ _ _ _ _ false true _ _ _ _ rfl
    rfl (@ConnectionStep.registered _ _ _ true _ "public" 10 rfl (by decide)),
    by rintro _ rfl; trivial, nofun, nofun⟩
  have hdelivered := hregistered.snoc ⟨@RelayStep.flushDelivered _ _ _ _ _ _ _ false true
    "did:agent:zBob" bobMessage [] (by rfl), nofun, nofun, nofun⟩
  have hread := hdelivered.snoc ⟨@RelayStep.markRead _ _ _ _ _ _ _ false _ _ _ _ bobMessage
    (by rfl) (by rfl) (by rfl), nofun, nofun, nofun⟩
  have hwritten := hread.snoc ⟨@RelayStep.markWritten _ _ _ _ _ _ _ false _ _ _ _ 30 (by rfl),
    nofun, nofun, by
      rintro task now messageId did copy rest hevent htask
      cases hevent
      cases htask
      exact ⟨bobMessage.stored, bobMessage, rfl, Or.inl rfl, rfl⟩⟩
  have hended := hwritten.snoc ⟨@RelayStep.helloEnded _ _ _ _ _ _ _ false true _ _ (by rfl)
    (@ConnectionStep.helloEnded _ _ _ true _ (by rfl)), by rintro _ rfl; trivial, nofun, nofun⟩
  have hsent := @none_stranded _ _ _ _ _ _ _ _ _ bobMessage.key (inflightMessage bobMessage 30)
    "did:agent:zBob" 0 bobWaits_starting hended (fun task => by cases task <;> rfl) (by rfl)
    (by rfl) (inflightMessage bobMessage 30).stored (by rfl) rfl (Or.inr rfl) (by rfl)
  exact ⟨_, _, hended, hsent⟩

/-- A relay with an empty queue. -/
def emptyRelay : RelayState Bool Bool :=
  { bobWaits with db := Record.empty, drawn := [] }

/-- **A stranded message.**  Alice's SEND finds Bob offline; Bob connects, and the flush finds the
queue empty; then the message is stored.  Bob is connected, and nobody will send it. -/
theorem stranded_message :
    ∃ events, ∃ s : RelayState Bool Bool,
      Trace (RelayStep DEFAULT_CONFIG "did:agent:zRelay") emptyRelay events s ∧
      emptyRelay.Starting ∧ (∀ task, s.tasks task = none) ∧
      s.openSocket "did:agent:zBob" = some false ∧
      s.db.get? bobMessage.key = some bobMessage.stored ∧
      (∀ event ∈ events, event.sends = none) ∧
      ∀ now, getMessagesForRetry DEFAULT_CONFIG now s.db = [] := by
  have hrun : Trace (RelayStep DEFAULT_CONFIG "did:agent:zRelay") emptyRelay [] emptyRelay := .nil
  -- Alice connects
  have hreceived := hrun.snoc (.connection
    (@ConnectionStep.helloReceived _ _ _ true "did:agent:zAlice" rfl) rfl)
  have hregistered := hreceived.snoc (@RelayStep.registered _ _ _ _ _ _ _ false true _ _ _ _ rfl
    rfl (@ConnectionStep.registered _ _ _ true _ "public" 10 rfl (by decide)))
  have hended := hregistered.snoc (@RelayStep.helloEnded _ _ _ _ _ _ _ false true _ _ rfl
    (@ConnectionStep.helloEnded _ _ _ true _ rfl))
  -- her SEND looks Bob up
  have hsent := hended.snoc (@RelayStep.sendReceived _ _ _ _ _ _ _ false true
    ⟨"did:agent:zAlice", "did:agent:zBob", [1, 2, 3]⟩ rfl rfl)
  have hhandled := hsent.snoc (@RelayStep.handled _ _ _ _ _ _ _ false _ "m1" 20 rfl (by decide)
    (by rintro ⟨_, target, _, htarget, _⟩; cases htarget) (by decide))
  -- Bob connects, and his flush has nothing to send
  have hreceived' := hhandled.snoc (.connection
    (@ConnectionStep.helloReceived _ _ _ false "did:agent:zBob" rfl) rfl)
  have hregistered' := hreceived'.snoc (@RelayStep.registered _ _ _ _ _ _ _ true false _ _ _ _ rfl
    rfl (@ConnectionStep.registered _ _ _ false _ "public" 30 rfl (by decide)))
  have hended' := hregistered'.snoc (@RelayStep.helloEnded _ _ _ _ _ _ _ true false _ _ rfl
    (@ConnectionStep.helloEnded _ _ _ false _ rfl))
  have hstored := hended'.snoc (@RelayStep.stored _ _ _ _ _ _ _ false _ _ bobMessage _ rfl
    (by decide))
  have haccepted := hstored.snoc (@RelayStep.acceptedOffline _ _ _ _ _ _ _ false _ _ bobMessage rfl
    (by rintro ref href; cases href))
  refine ⟨_, _, haccepted, ⟨idleRelay_starting, fun _ => rfl, nofun, nofun⟩,
    fun task => by cases task <;> rfl, by rfl, by rfl, by simp [RelayEvent.sends], fun now => ?_⟩
  rfl

end QuadraA.Relay
