import QuadraA.E2E.SamplePrimitives
import QuadraA.Lib.Trace

/-!
# Simultaneous initiation

Two devices that each build a first message to the other before they have received the other's.
Both bootstraps write the same slot, and the later write stands: the session a device initiated is
replaced by the one it answers.

* `crossing_run` — each side ends with the responder session of the message it received, so with
  two different session ids neither next message is accepted by the other side;
* `crossing_diverges` — a concrete crossing whose ends do not meet.
-/

namespace QuadraA.E2E

open QuadraA.Lib

/-- The two stored sessions belong together: one session id and one root secret. -/
def EndsOfOneSession (s s' : LocalSessionState) : Prop :=
  s.sessionId = s'.sessionId ∧ s.rootKey = s'.rootKey

instance (s s' : LocalSessionState) : Decidable (EndsOfOneSession s s') :=
  inferInstanceAs (Decidable (_ ∧ _))

/-- **A crossing**: two devices have each built a first message addressed to the other. -/
structure Crossing (c : Primitives) (ambA ambB : Ambient)
    (buildA buildB : BuildInitiatorPreKeyMessageInput)
    (builtA builtB : BuildInitiatorPreKeyMessageResult) : Prop where
  builtA_eq : buildInitiatorPreKeyMessage c ambA buildA = .ok builtA
  builtB_eq : buildInitiatorPreKeyMessage c ambB buildB = .ok builtB
  receiverDidA : builtA.message.receiverDid = builtB.message.senderDid
  receiverDidB : builtB.message.receiverDid = builtA.message.senderDid
  receiverDeviceA : builtA.message.receiverDeviceId = builtB.message.senderDeviceId
  receiverDeviceB : builtB.message.receiverDeviceId = builtA.message.senderDeviceId
  keyedA : buildA.e2eConfig.Keyed
  keyedB : buildB.e2eConfig.Keyed

/-- The stored configurations of the two sides. -/
structure CrossState where
  configA : LocalE2EConfig
  configB : LocalE2EConfig

/-- Which side receives its first message. -/
inductive CrossEvent where
  | atA
  | atB
deriving DecidableEq

/-- **The deliveries**: each side consumes the message of the other and stores the result. -/
inductive CrossStep (c : Primitives) (messageA messageB : PreKeyMessage) :
    CrossState → CrossEvent → CrossState → Prop
  | atA {s : CrossState} {amb : Ambient} {now : Option ℕ}
      {result : ConsumeResponderPreKeyMessageResult} :
      consumeResponderPreKeyMessage c amb
        { e2eConfig := s.configA, receiverDid := messageB.receiverDid, message := messageB,
          now := now } = .ok result →
      CrossStep c messageA messageB s .atA { s with configA := result.e2eConfig }
  | atB {s : CrossState} {amb : Ambient} {now : Option ℕ}
      {result : ConsumeResponderPreKeyMessageResult} :
      consumeResponderPreKeyMessage c amb
        { e2eConfig := s.configB, receiverDid := messageA.receiverDid, message := messageA,
          now := now } = .ok result →
      CrossStep c messageA messageB s .atB { s with configB := result.e2eConfig }

/-- A configuration that has answered a message: its slot holds a responder session with the id and
the routing of the message. -/
def Answered (config : LocalE2EConfig) (message : PreKeyMessage) : Prop :=
  ∃ session, loadLocalSession config message.receiverDeviceId message.senderDid
      message.senderDeviceId = some session ∧
    session.role = .responder ∧ session.sessionId = message.sessionId ∧
    session.peerDeviceId = message.senderDeviceId ∧
    session.selfDeviceId = message.receiverDeviceId

theorem answered_of_consume {c : Primitives} {amb : Ambient}
    {input : ConsumeResponderPreKeyMessageInput} {result : ConsumeResponderPreKeyMessageResult}
    (hkeyed : input.e2eConfig.Keyed)
    (h : consumeResponderPreKeyMessage c amb input = .ok result) :
    Answered result.e2eConfig input.message := by
  obtain ⟨hid, hrole, _, hpeer, hself⟩ := consumed_session hkeyed h
  refine ⟨result.session, ?_, hrole, hid, hpeer, hself⟩
  rw [loadLocalSession_eq, sessionAt_of_consume hkeyed h, if_pos rfl]

/-- **The run of a crossing**: devices stay under their ids, and a side that has received its
message has answered it. -/
theorem crossing_invariant {c : Primitives} {messageA messageB : PreKeyMessage}
    {s s' : CrossState} {events : List CrossEvent} (hkeyedA : s.configA.Keyed)
    (hkeyedB : s.configB.Keyed) (hrun : Trace (CrossStep c messageA messageB) s events s') :
    (s'.configA.Keyed ∧ s'.configB.Keyed) ∧
      (.atA ∈ events → Answered s'.configA messageB) ∧
      (.atB ∈ events → Answered s'.configB messageA) := by
  refine hrun.invariant (fun events s => (s.configA.Keyed ∧ s.configB.Keyed) ∧
      (.atA ∈ events → Answered s.configA messageB) ∧
      (.atB ∈ events → Answered s.configB messageA)) ?_ ?_
  · exact ⟨⟨hkeyedA, hkeyedB⟩, fun h => absurd h List.not_mem_nil,
      fun h => absurd h List.not_mem_nil⟩
  · intro events s event s' _ hinv hstep
    obtain ⟨⟨hkeyedA, hkeyedB⟩, hA, hB⟩ := hinv
    cases hstep with
    | atA hconsume =>
      refine ⟨⟨Keyed.consume hkeyedA hconsume, hkeyedB⟩,
        fun _ => answered_of_consume hkeyedA hconsume, ?_⟩
      intro hmem
      refine hB ?_
      simpa using hmem
    | atB hconsume =>
      refine ⟨⟨hkeyedA, Keyed.consume hkeyedB hconsume⟩, ?_,
        fun _ => answered_of_consume hkeyedB hconsume⟩
      intro hmem
      refine hA ?_
      simpa using hmem

/-- A session message that is encrypted on the answer to one message is refused by the side that
answered the other one. -/
theorem refused_of_answered {c : Primitives} {config : LocalE2EConfig}
    {message other : PreKeyMessage} (hanswered : Answered config message)
    (hdid : other.receiverDid = message.senderDid)
    (hdevice : message.receiverDeviceId = other.senderDeviceId)
    (hdevice' : other.receiverDeviceId = message.senderDeviceId)
    (hids : message.sessionId ≠ other.sessionId) {session : LocalSessionState}
    (hpeer : session.peerDeviceId = other.senderDeviceId)
    (hself : session.selfDeviceId = other.receiverDeviceId)
    (hsession : session.sessionId = other.sessionId) {amb : Ambient}
    {input : RatchetEncryptInput} {result : RatchetEncryptResult}
    (hinput : input.session = session) (hsender : input.senderDid = other.receiverDid)
    (hencrypt : encryptRatchetMessage c amb input = .ok result) (amb' : Ambient)
    (receiverDid : String) (now : Option ℕ) :
    decryptWireMessage c amb' config receiverDid now (.session result.message)
      = .error (.sessionIdMismatch message.sessionId other.sessionId) := by
  obtain ⟨hsenderDid, _, hid, hselfDevice, hpeerDevice⟩ := encryptRatchetMessage_header hencrypt
  obtain ⟨stored, hstored, _, hstoredId, _⟩ := hanswered
  rw [hinput] at hid hselfDevice hpeerDevice
  have hload : loadLocalSession config result.message.receiverDeviceId result.message.senderDid
      result.message.senderDeviceId = some stored := by
    rw [hpeerDevice, hselfDevice, hsenderDid, hpeer, hself, hsender, hdid, ← hdevice, hdevice']
    exact hstored
  have hne : stored.sessionId ≠ result.message.sessionId := by
    rw [hstoredId, hid, hsession]
    exact hids
  simp only [decryptWireMessage, hload, if_pos hne]
  rw [hstoredId, hid, hsession]

/-- **Simultaneous initiation.**  After both first messages have been accepted, in either order,
each side holds the responder session of the message it received, the sessions both had initiated
are gone, and unless the two messages carry one session id the two stored sessions are not the ends
of one session and each side refuses the next session message of the other. -/
theorem crossing_run {c : Primitives} {ambA ambB : Ambient}
    {buildA buildB : BuildInitiatorPreKeyMessageInput}
    {builtA builtB : BuildInitiatorPreKeyMessageResult}
    (hcrossing : Crossing c ambA ambB buildA buildB builtA builtB)
    {events : List CrossEvent} {s : CrossState}
    (hboth : events = [.atA, .atB] ∨ events = [.atB, .atA])
    (hrun : Trace (CrossStep c builtA.message builtB.message)
      { configA := builtA.e2eConfig, configB := builtB.e2eConfig } events s) :
    ∃ sessionA sessionB,
      loadLocalSession s.configA builtA.message.senderDeviceId builtA.message.receiverDid
        builtA.message.receiverDeviceId = some sessionA ∧
      loadLocalSession s.configB builtB.message.senderDeviceId builtB.message.receiverDid
        builtB.message.receiverDeviceId = some sessionB ∧
      sessionA.role = .responder ∧ sessionA.sessionId = builtB.message.sessionId ∧
      sessionB.role = .responder ∧ sessionB.sessionId = builtA.message.sessionId ∧
      (builtA.message.sessionId ≠ builtB.message.sessionId →
        ¬EndsOfOneSession sessionA sessionB ∧
        (∀ amb input result, input.session = sessionA →
          input.senderDid = builtA.message.senderDid →
          encryptRatchetMessage c amb input = .ok result → ∀ amb' receiverDid now,
          decryptWireMessage c amb' s.configB receiverDid now (.session result.message)
            = .error (.sessionIdMismatch sessionB.sessionId sessionA.sessionId)) ∧
        (∀ amb input result, input.session = sessionB →
          input.senderDid = builtB.message.senderDid →
          encryptRatchetMessage c amb input = .ok result → ∀ amb' receiverDid now,
          decryptWireMessage c amb' s.configA receiverDid now (.session result.message)
            = .error (.sessionIdMismatch sessionA.sessionId sessionB.sessionId))) := by
  have hkeyedA := Keyed.build hcrossing.keyedA hcrossing.builtA_eq
  have hkeyedB := Keyed.build hcrossing.keyedB hcrossing.builtB_eq
  obtain ⟨_, hatA, hatB⟩ := crossing_invariant hkeyedA hkeyedB hrun
  have hansweredA : Answered s.configA builtB.message := by
    refine hatA ?_
    rcases hboth with rfl | rfl <;> decide
  have hansweredB : Answered s.configB builtA.message := by
    refine hatB ?_
    rcases hboth with rfl | rfl <;> decide
  obtain ⟨sessionA, hloadA, hroleA, hidA, hpeerA, hselfA⟩ := hansweredA
  obtain ⟨sessionB, hloadB, hroleB, hidB, hpeerB, hselfB⟩ := hansweredB
  refine ⟨sessionA, sessionB, ?_, ?_, hroleA, hidA, hroleB, hidB, ?_⟩
  · rw [← hcrossing.receiverDeviceB, hcrossing.receiverDidA, hcrossing.receiverDeviceA]
    exact hloadA
  · rw [← hcrossing.receiverDeviceA, hcrossing.receiverDidB, hcrossing.receiverDeviceB]
    exact hloadB
  · intro hids
    refine ⟨?_, ?_, ?_⟩
    · rintro ⟨hsame, _⟩
      rw [hidA, hidB] at hsame
      exact hids hsame.symm
    · intro amb input result hinput hsender hencrypt amb' receiverDid now
      rw [hidA, hidB]
      exact refused_of_answered ⟨sessionB, hloadB, hroleB, hidB, hpeerB, hselfB⟩
        hcrossing.receiverDidB hcrossing.receiverDeviceA hcrossing.receiverDeviceB hids hpeerA
        hselfA hidA hinput (hsender.trans hcrossing.receiverDidB.symm) hencrypt amb' receiverDid
        now
    · intro amb input result hinput hsender hencrypt amb' receiverDid now
      rw [hidA, hidB]
      exact refused_of_answered ⟨sessionA, hloadA, hroleA, hidA, hpeerA, hselfA⟩
        hcrossing.receiverDidA hcrossing.receiverDeviceB hcrossing.receiverDeviceA hids.symm
        hpeerB hselfB hidB hinput (hsender.trans hcrossing.receiverDidA.symm) hencrypt amb'
        receiverDid now

/-! ### A crossing of two sample devices -/

/-- Bob's first message to Alice, built before he has received hers. -/
def bobBuild : BuildInitiatorPreKeyMessageInput :=
  sampleBuild bobConfig "did:b" "did:a" aliceDevice true [4, 5, 6]

@[irreducible] def bobBuilt : BuildInitiatorPreKeyMessageResult :=
  valueOf (buildInitiatorPreKeyMessage sample (sampleAmbient 80 2000) bobBuild)
    (by decide +kernel)

theorem bobBuilt_eq :
    buildInitiatorPreKeyMessage sample (sampleAmbient 80 2000) bobBuild = .ok bobBuilt := by
  unfold bobBuilt
  exact eq_ok_valueOf _ _

/-- The two sides before the deliveries. -/
def crossing : CrossState where
  configA := aliceBuilt.e2eConfig
  configB := bobBuilt.e2eConfig

/-- What either side returns for the message of the other. -/
@[irreducible] def aliceAnswer : ConsumeResponderPreKeyMessageResult :=
  valueOf (consumeResponderPreKeyMessage sample (sampleAmbient 81 2001)
    { e2eConfig := crossing.configA, receiverDid := bobBuilt.message.receiverDid,
      message := bobBuilt.message, now := none }) (by decide +kernel)

@[irreducible] def bobAnswer : ConsumeResponderPreKeyMessageResult :=
  valueOf (consumeResponderPreKeyMessage sample (sampleAmbient 82 2002)
    { e2eConfig := crossing.configB, receiverDid := aliceBuilt.message.receiverDid,
      message := aliceBuilt.message, now := none }) (by decide +kernel)

theorem aliceAnswer_eq : consumeResponderPreKeyMessage sample (sampleAmbient 81 2001)
    { e2eConfig := crossing.configA, receiverDid := bobBuilt.message.receiverDid,
      message := bobBuilt.message, now := none } = .ok aliceAnswer := by
  unfold aliceAnswer
  exact eq_ok_valueOf _ _

theorem bobAnswer_eq : consumeResponderPreKeyMessage sample (sampleAmbient 82 2002)
    { e2eConfig := crossing.configB, receiverDid := aliceBuilt.message.receiverDid,
      message := aliceBuilt.message, now := none } = .ok bobAnswer := by
  unfold bobAnswer
  exact eq_ok_valueOf _ _

/-- The two sides after them. -/
def crossed : CrossState where
  configA := aliceAnswer.e2eConfig
  configB := bobAnswer.e2eConfig

theorem crossing_atA_atB :
    Trace (CrossStep sample aliceBuilt.message bobBuilt.message) crossing [.atA, .atB]
      crossed := by
  have hA : CrossStep sample aliceBuilt.message bobBuilt.message crossing .atA
      { crossing with configA := aliceAnswer.e2eConfig } := .atA aliceAnswer_eq
  have hB : CrossStep sample aliceBuilt.message bobBuilt.message
      { crossing with configA := aliceAnswer.e2eConfig } .atB crossed := .atB bobAnswer_eq
  exact (Trace.nil.snoc hA).snoc hB

theorem crossing_atB_atA :
    Trace (CrossStep sample aliceBuilt.message bobBuilt.message) crossing [.atB, .atA]
      crossed := by
  have hB : CrossStep sample aliceBuilt.message bobBuilt.message crossing .atB
      { crossing with configB := bobAnswer.e2eConfig } := .atB bobAnswer_eq
  have hA : CrossStep sample aliceBuilt.message bobBuilt.message
      { crossing with configB := bobAnswer.e2eConfig } .atA crossed := .atA aliceAnswer_eq
  exact (Trace.nil.snoc hB).snoc hA

theorem sampleCrossing : Crossing sample (sampleAmbient 90 2000) (sampleAmbient 80 2000)
    aliceBuild bobBuild aliceBuilt bobBuilt where
  builtA_eq := aliceBuilt_eq
  builtB_eq := bobBuilt_eq
  receiverDidA := by decide +kernel
  receiverDidB := by decide +kernel
  receiverDeviceA := by decide +kernel
  receiverDeviceB := by decide +kernel
  keyedA := sampleConfig_keyed _ _ _
  keyedB := sampleConfig_keyed _ _ _

/-- The sample devices keep two sessions. -/
theorem crossing_run_sample :
    ∃ sessionA sessionB,
      loadLocalSession crossed.configA aliceBuilt.message.senderDeviceId
        aliceBuilt.message.receiverDid aliceBuilt.message.receiverDeviceId = some sessionA ∧
      loadLocalSession crossed.configB bobBuilt.message.senderDeviceId
        bobBuilt.message.receiverDid bobBuilt.message.receiverDeviceId = some sessionB ∧
      ¬EndsOfOneSession sessionA sessionB := by
  obtain ⟨sessionA, sessionB, hA, hB, _, _, _, _, h⟩ :=
    crossing_run sampleCrossing (Or.inl rfl) crossing_atA_atB
  exact ⟨sessionA, sessionB, hA, hB, (h (by decide +kernel)).1⟩

/-- Alice's next message on the session she has stored for Bob. -/
def aliceNext : RatchetEncryptResult :=
  valueOf (encryptRatchetMessage sample (sampleAmbient 83 2003)
    { session := aliceAnswer.session, plaintext := [9], senderDid := "did:a",
      receiverDid := "did:b" }) (by decide +kernel)

/-- **The crossing does not converge**: in either order the two stored sessions are not the ends of
one session, and the next message of Alice is refused by Bob. -/
theorem crossing_diverges :
    (Trace (CrossStep sample aliceBuilt.message bobBuilt.message) crossing
        [.atA, .atB] crossed ∧
      Trace (CrossStep sample aliceBuilt.message bobBuilt.message) crossing
        [.atB, .atA] crossed) ∧
    loadLocalSession crossed.configA "device-a" "did:b" "device-b" = some aliceAnswer.session ∧
    loadLocalSession crossed.configB "device-b" "did:a" "device-a" = some bobAnswer.session ∧
    ¬EndsOfOneSession aliceAnswer.session bobAnswer.session ∧
    (decryptWireMessage sample (sampleAmbient 84 2004) crossed.configB "did:b" none
      (.session aliceNext.message)).isOk = false :=
  ⟨⟨crossing_atA_atB, crossing_atB_atA⟩, by decide +kernel, by decide +kernel, by decide +kernel,
    by decide +kernel⟩

end QuadraA.E2E
