import QuadraA.Runtime.PeerRecovery
import QuadraA.Lib.Trace
import Mathlib.Algebra.Order.Ring.Int

/-!
# Two daemons recover

Two daemons that talk to each other: either of them starts a recovery at any time, and the control
envelopes that are in flight are delivered in any order, each once.

* `PairStep` — the steps; a delivery takes its envelope out of flight and puts the answer in;
* `recovery_agreement` — with nothing in flight no recovery is running, and every generated epoch
  is above all epochs generated or received before.
-/

namespace QuadraA.Runtime

open QuadraA.Lib

/-! ### The pair -/

inductive Side where
  | a
  | b
deriving DecidableEq, Repr

def Side.other : Side → Side
  | .a => .b
  | .b => .a

@[simp] theorem Side.other_other (side : Side) : side.other.other = side := by
  cases side <;> rfl

theorem Side.other_ne (side : Side) : side.other ≠ side := by
  cases side <;> simp [Side.other]

theorem Side.eq_or_eq_other (side side' : Side) : side' = side ∨ side' = side.other := by
  cases side <;> cases side' <;> simp [Side.other]

structure RecoveryPair where
  daemon : Side → RecoveryDaemon ℤ
  inFlight : List (ControlEnvelope ℤ)

/-- What a step does with epochs: a local start may generate one, a delivery receives one. -/
inductive PairEvent where
  | started (side : Side) (generated : Option ℤ)
  | received (side : Side) (epoch : ℤ)

/-- The epoch that a local start generates, if it starts a new recovery. -/
def generatedEpoch (recovery : LocalRecovery ℤ) : Option ℤ :=
  if recovery.started then some recovery.state.epoch else none

/-- The pair when a side has done its work and put what it sends in flight. -/
def RecoveryPair.after (s : RecoveryPair) (side : Side)
    (handled : RecoveryDaemon ℤ × List (ControlEnvelope ℤ)) (inFlight : List (ControlEnvelope ℤ)) :
    RecoveryPair where
  daemon := Function.update s.daemon side handled.1
  inFlight := inFlight ++ handled.2

/-- **The steps of the pair**, with the DIDs of the two sides. -/
inductive PairStep (did : Side → String) (s : RecoveryPair) : PairEvent → RecoveryPair → Prop
  | decryptFailure (side : Side) (now : ℤ) (tf : Bool) :
      PairStep did s
        (.started side (generatedEpoch (beginLocalPeerRecovery (s.daemon side) now
          (did side.other) "decrypt-failed" now tf).1))
        (s.after side
          (recoverFromDecryptFailure (s.daemon side) now (did side.other) tf false) s.inFlight)
  | manualReset (side : Side) (now : ℤ) (tf : Bool) :
      PairStep did s
        (.started side (generatedEpoch (beginLocalPeerRecovery (s.daemon side) now
          (did side.other) "manual-reset" now tf).1))
        (s.after side (manualReset (s.daemon side) now (did side.other) tf false) s.inFlight)
  | deliver (side : Side) (now : ℤ) (tf : Bool) {envelope : ControlEnvelope ℤ} :
      envelope ∈ s.inFlight → envelope.receiver = did side →
      PairStep did s (.received side (envelope.epochAt now))
        (s.after side (handleControlEnvelope (s.daemon side) now envelope tf false)
          (s.inFlight.erase envelope))

/-- Two daemons that have no recovery state, and nothing in flight. -/
structure RecoveryPair.Initial (did : Side → String) (s : RecoveryPair) : Prop where
  dids : ∀ side, (s.daemon side).did = did side
  resting : ∀ side, (s.daemon side).peerRecoveryStates = .empty
  silent : s.inFlight = []

/-- The epochs that an event generates or receives at a side. -/
def PairEvent.epochs (side : Side) : PairEvent → List ℤ
  | .started side' generated => if side' = side then generated.toList else []
  | .received side' epoch => if side' = side then [epoch] else []

/-! ### The invariant -/

/-- A control envelope of one side to the other: its resets are below its own floor, the
acknowledgements it sends are below the floor of the side they go to. -/
structure RoutedFrom (did : Side → String) (daemon : Side → RecoveryDaemon ℤ) (side : Side)
    (envelope : ControlEnvelope ℤ) (epoch : ℤ) : Prop where
  sender : envelope.sender = did side
  receiver : envelope.receiver = did side.other
  carries : envelope.epoch = some epoch
  reset : envelope.protocol = .sessionReset → epoch ≤ (daemon side).floor (did side.other)
  ack : envelope.protocol = .sessionResetAck → epoch ≤ (daemon side.other).floor (did side)

/-- **An envelope that settles** a recovery of a side: its reset, the acknowledgement of it, or a
reset of the peer with a higher epoch. -/
inductive Settles (did : Side → String) (side : Side) (epoch : ℤ) (envelope : ControlEnvelope ℤ) :
    Prop
  | reset : envelope.protocol = .sessionReset → envelope.sender = did side →
      envelope.epoch = some epoch → Settles did side epoch envelope
  | ack : envelope.protocol = .sessionResetAck → envelope.receiver = did side →
      envelope.epoch = some epoch → Settles did side epoch envelope
  | higher {epoch' : ℤ} : envelope.protocol = .sessionReset → envelope.receiver = did side →
      envelope.epoch = some epoch' → epoch < epoch' → Settles did side epoch envelope

/-- A running recovery awaits its acknowledgement, is below the floor, and will be settled. -/
structure Awaiting (did : Side → String) (daemon : RecoveryDaemon ℤ)
    (inFlight : List (ControlEnvelope ℤ)) (side : Side) (recovery : PeerRecoveryState ℤ) :
    Prop where
  awaitingAck : recovery.awaitingAck = true
  le_floor : recovery.epoch ≤ daemon.floor (did side.other)
  settled : ∃ envelope ∈ inFlight, Settles did side recovery.epoch envelope

/-- **The invariant of the pair.** -/
structure Agreeing (did : Side → String) (events : List PairEvent) (s : RecoveryPair) : Prop where
  dids : ∀ side, (s.daemon side).did = did side
  alone : ∀ side peer, peer ≠ did side.other →
    (s.daemon side).peerRecoveryStates.get? peer = none
  routed : ∀ envelope ∈ s.inFlight, ∃ side epoch, RoutedFrom did s.daemon side envelope epoch
  awaiting : ∀ side recovery,
    (s.daemon side).peerRecoveryStates.get? (did side.other) = some recovery →
      Awaiting did (s.daemon side) s.inFlight side recovery
  seen : ∀ side, ∀ event ∈ events, ∀ epoch ∈ event.epochs side,
    epoch ≤ (s.daemon side).floor (did side.other)
  increasing : events.Pairwise fun earlier later =>
    ∀ side epoch, later = .started side (some epoch) → ∀ e ∈ earlier.epochs side, e < epoch

variable {did : Side → String} {s : RecoveryPair} {events : List PairEvent} {side : Side}
  {daemon : RecoveryDaemon ℤ} {inFlight sent : List (ControlEnvelope ℤ)} {event : PairEvent}
  {epoch now : ℤ} {reason : String} {tf : Bool} {envelope : ControlEnvelope ℤ}
  {result : RecoveryDaemon ℤ × List (ControlEnvelope ℤ)}

theorem Agreeing.initial (h : s.Initial did) : Agreeing did [] s := by
  have hnone (side : Side) (peer : String) :
      (s.daemon side).peerRecoveryStates.get? peer = none := by
    rw [h.resting side]
    rfl
  refine ⟨h.dids, fun side peer _ => hnone side peer, ?_, ?_, ?_, .nil⟩
  · intro envelope hmem
    rw [h.silent] at hmem
    cases hmem
  · intro side recovery hrecovery
    rw [hnone] at hrecovery
    cases hrecovery
  · intro _ _ hmem
    cases hmem

/-- What a step of one side has to establish. -/
structure SideStep (did : Side → String) (s : RecoveryPair) (side : Side)
    (daemon : RecoveryDaemon ℤ) (inFlight : List (ControlEnvelope ℤ)) (event : PairEvent) :
    Prop where
  dids : daemon.did = did side
  alone : ∀ peer, peer ≠ did side.other → daemon.peerRecoveryStates.get? peer = none
  floor : (s.daemon side).floor (did side.other) ≤ daemon.floor (did side.other)
  routed : ∀ envelope ∈ inFlight, envelope ∈ s.inFlight ∨
    ∃ epoch, RoutedFrom did (Function.update s.daemon side daemon) side envelope epoch
  awaiting : ∀ recovery, daemon.peerRecoveryStates.get? (did side.other) = some recovery →
    Awaiting did daemon inFlight side recovery
  settled : ∀ recovery,
    (s.daemon side.other).peerRecoveryStates.get? (did side) = some recovery →
    (∃ envelope ∈ s.inFlight, Settles did side.other recovery.epoch envelope) →
      ∃ envelope ∈ inFlight, Settles did side.other recovery.epoch envelope
  epochs : ∀ epoch ∈ event.epochs side, epoch ≤ daemon.floor (did side.other)
  others : event.epochs side.other = []
  generated : ∀ side' epoch, event = .started side' (some epoch) →
    side' = side ∧ (s.daemon side).floor (did side.other) < epoch

/-- **A step of one side** keeps the invariant. -/
theorem Agreeing.step_side (h : Agreeing did events s)
    (hstep : SideStep did s side daemon inFlight event) :
    Agreeing did (events ++ [event])
      { daemon := Function.update s.daemon side daemon, inFlight } := by
  have hself : Function.update s.daemon side daemon side = daemon := Function.update_self ..
  have hother : Function.update s.daemon side daemon side.other = s.daemon side.other :=
    Function.update_of_ne side.other_ne ..
  have hfloor (side' : Side) : (s.daemon side').floor (did side'.other)
      ≤ (Function.update s.daemon side daemon side').floor (did side'.other) := by
    rcases side.eq_or_eq_other side' with rfl | rfl
    · rw [hself]
      exact hstep.floor
    · rw [hother]
  refine ⟨?_, ?_, ?_, ?_, ?_, ?_⟩
  · intro side'
    rcases side.eq_or_eq_other side' with rfl | rfl
    · show (Function.update s.daemon side' daemon side').did = did side'
      rw [hself]
      exact hstep.dids
    · show (Function.update s.daemon side daemon side.other).did = did side.other
      rw [hother]
      exact h.dids _
  · intro side' peer hpeer
    rcases side.eq_or_eq_other side' with rfl | rfl
    · show (Function.update s.daemon side' daemon side').peerRecoveryStates.get? peer = none
      rw [hself]
      exact hstep.alone peer hpeer
    · show (Function.update s.daemon side daemon side.other).peerRecoveryStates.get? peer = none
      rw [hother]
      exact h.alone _ peer hpeer
  · intro envelope hmem
    rcases hstep.routed envelope hmem with hold | ⟨epoch, hnew⟩
    · obtain ⟨side', epoch, hrouted⟩ := h.routed envelope hold
      refine ⟨side', epoch, hrouted.sender, hrouted.receiver, hrouted.carries, ?_, ?_⟩
      · intro hreset
        exact (hrouted.reset hreset).trans (hfloor side')
      · intro hack
        have hle := hfloor side'.other
        rw [Side.other_other] at hle
        exact (hrouted.ack hack).trans hle
    · exact ⟨side, epoch, hnew⟩
  · intro side' recovery hrecovery
    simp only at hrecovery ⊢
    rcases side.eq_or_eq_other side' with rfl | rfl
    · rw [hself] at hrecovery ⊢
      exact hstep.awaiting recovery hrecovery
    · rw [hother] at hrecovery ⊢
      have hold := h.awaiting _ recovery hrecovery
      rw [Side.other_other] at hrecovery
      exact ⟨hold.awaitingAck, hold.le_floor, hstep.settled recovery hrecovery hold.settled⟩
  · intro side' event' hmem epoch hepoch
    rcases List.mem_append.mp hmem with hold | hnew
    · exact (h.seen side' event' hold epoch hepoch).trans (hfloor side')
    · obtain rfl := List.mem_singleton.mp hnew
      rcases side.eq_or_eq_other side' with rfl | rfl
      · show epoch ≤ (Function.update s.daemon side' daemon side').floor _
        rw [hself]
        exact hstep.epochs epoch hepoch
      · rw [hstep.others] at hepoch
        cases hepoch
  · rw [List.pairwise_append]
    refine ⟨h.increasing, List.pairwise_singleton _ _, ?_⟩
    intro earlier hearlier later hlater side' epoch hstarted e he
    obtain rfl := List.mem_singleton.mp hlater
    obtain ⟨rfl, hlt⟩ := hstep.generated side' epoch hstarted
    exact lt_of_le_of_lt (h.seen _ earlier hearlier e he) hlt

/-! ### Local starts -/

/-- A reset that a side sends below its floor is routed. -/
theorem routedFrom_reset {daemons : Side → RecoveryDaemon ℤ} (hdid : daemon.did = did side)
    (reason : String) (timestamp : ℤ) (hle : epoch ≤ (daemons side).floor (did side.other)) :
    RoutedFrom did daemons side
      (controlEnvelope daemon .sessionReset (did side.other) reason epoch timestamp) epoch :=
  ⟨hdid, rfl, rfl, fun _ => hle, fun hack => by cases hack⟩

/-- **A running recovery** is left alone; its reset may be sent once more. -/
theorem Agreeing.step_running (h : Agreeing did events s)
    (hsent : ∀ envelope ∈ sent, ∃ epoch, RoutedFrom did s.daemon side envelope epoch) :
    SideStep did s side (s.daemon side) (s.inFlight ++ sent) (.started side none) := by
  refine ⟨h.dids side, h.alone side, le_rfl, ?_, ?_, ?_, ?_, ?_, ?_⟩
  · intro envelope hmem
    rw [Function.update_eq_self]
    rcases List.mem_append.mp hmem with hold | hnew
    · exact Or.inl hold
    · exact Or.inr (hsent envelope hnew)
  · intro recovery hrecovery
    obtain ⟨hack, hfloor, envelope, hmem, hsettles⟩ := h.awaiting side recovery hrecovery
    exact ⟨hack, hfloor, envelope, List.mem_append_left _ hmem, hsettles⟩
  · rintro recovery _ ⟨envelope, hmem, hsettles⟩
    exact ⟨envelope, List.mem_append_left _ hmem, hsettles⟩
  · intro epoch hepoch
    simp [PairEvent.epochs] at hepoch
  · simp [PairEvent.epochs]
  · intro side' epoch hevent
    cases hevent

/-- **A new recovery** raises the floor to its epoch and puts its reset in flight. -/
theorem Agreeing.step_started (h : Agreeing did events s)
    (hdaemon : daemon = (enterRecovery (nextPeerRecoveryEpoch (s.daemon side) now
      (did side.other)).2 (did side.other)
        { epoch := max now ((s.daemon side).floor (did side.other) + 1)
          startedAt := now
          reason
          awaitingAck := true } tf).2.2) :
    SideStep did s side daemon
      (s.inFlight ++ [controlEnvelope daemon .sessionReset (did side.other) reason
        (max now ((s.daemon side).floor (did side.other) + 1)) now])
      (.started side (some (max now ((s.daemon side).floor (did side.other) + 1)))) := by
  obtain ⟨hstates, hfloors, hdid⟩ := enterRecovery_fields
    (nextPeerRecoveryEpoch (s.daemon side) now (did side.other)).2 (did side.other)
    { epoch := max now ((s.daemon side).floor (did side.other) + 1)
      startedAt := now
      reason
      awaitingAck := true } tf
  rw [← hdaemon] at hstates hfloors hdid
  have hfloor : daemon.floor (did side.other)
      = max now ((s.daemon side).floor (did side.other) + 1) := by
    rw [floor_of_floors hfloors, RecoveryDaemon.floor, nextPeerRecoveryEpoch,
      Record.get?_set_self, Option.getD_some]
  have hdids : daemon.did = did side := hdid.trans (h.dids side)
  have hself : Function.update s.daemon side daemon side = daemon := Function.update_self ..
  have hup : (s.daemon side).floor (did side.other) < daemon.floor (did side.other) := by
    rw [hfloor]
    omega
  refine ⟨hdids, ?_, hup.le, ?_, ?_, ?_, ?_, ?_, ?_⟩
  · intro peer hpeer
    rw [hstates, Record.get?_set_ne _ _ (Ne.symm hpeer)]
    exact h.alone side peer hpeer
  · intro envelope hmem
    rcases List.mem_append.mp hmem with hold | hnew
    · exact Or.inl hold
    · obtain rfl := List.mem_singleton.mp hnew
      exact Or.inr ⟨_, routedFrom_reset hdids _ _ (by rw [hself, hfloor])⟩
  · intro recovery hrecovery
    rw [hstates, Record.get?_set_self, Option.some.injEq] at hrecovery
    rw [← hrecovery]
    exact ⟨rfl, hfloor.ge, _, List.mem_append_right _ List.mem_cons_self, .reset rfl hdids rfl⟩
  · rintro recovery _ ⟨envelope, hmem, hsettles⟩
    exact ⟨envelope, List.mem_append_left _ hmem, hsettles⟩
  · intro epoch hepoch
    rw [PairEvent.epochs, if_pos rfl, Option.toList_some, List.mem_singleton] at hepoch
    rw [hepoch, hfloor]
  · rw [PairEvent.epochs, if_neg (Ne.symm side.other_ne)]
  · intro side' epoch hevent
    obtain ⟨rfl, hepoch⟩ := PairEvent.started.inj hevent
    rw [← Option.some.inj hepoch, ← hfloor]
    exact ⟨rfl, hup⟩

/-- **A local start**, after a failed decryption or by hand. -/
theorem Agreeing.step_local (h : Agreeing did events s)
    (hdaemon : daemon = (beginLocalPeerRecovery (s.daemon side) now (did side.other) reason now
      tf).2)
    (hstarted : (beginLocalPeerRecovery (s.daemon side) now (did side.other) reason now
        tf).1.started = true →
      sent = [controlEnvelope daemon .sessionReset (did side.other)
        (beginLocalPeerRecovery (s.daemon side) now (did side.other) reason now tf).1.state.reason
        (beginLocalPeerRecovery (s.daemon side) now (did side.other) reason now tf).1.state.epoch
        now])
    (hrunning : ∀ envelope ∈ sent, ∃ reason', envelope = controlEnvelope daemon .sessionReset
      (did side.other) reason'
      (beginLocalPeerRecovery (s.daemon side) now (did side.other) reason now tf).1.state.epoch
      now) :
    SideStep did s side daemon (s.inFlight ++ sent)
      (.started side (generatedEpoch (beginLocalPeerRecovery (s.daemon side) now
        (did side.other) reason now tf).1)) := by
  rcases beginLocalPeerRecovery_cases (s.daemon side) now (did side.other) reason now tf with
    ⟨existing, hexisting, hbegin⟩ | ⟨_, hstart, hstate, hnext⟩
  · rw [hbegin] at hdaemon hrunning ⊢
    subst hdaemon
    refine h.step_running fun envelope hmem => ?_
    obtain ⟨reason', rfl⟩ := hrunning envelope hmem
    exact ⟨_, routedFrom_reset (h.dids side) _ _ (h.awaiting side existing hexisting).le_floor⟩
  · rw [hstarted hstart, generatedEpoch, if_pos hstart, hstate]
    exact h.step_started (hdaemon.trans hnext)

/-- A failed decryption sends its reset when the recovery is new. -/
theorem recoverFromDecryptFailure_sends (daemon : RecoveryDaemon ℤ) (now : ℤ) (peerDid : String)
    (tf : Bool) : recoverFromDecryptFailure daemon now peerDid tf false
      = ((beginLocalPeerRecovery daemon now peerDid "decrypt-failed" now tf).2,
          if (beginLocalPeerRecovery daemon now peerDid "decrypt-failed" now tf).1.started then
            [controlEnvelope (beginLocalPeerRecovery daemon now peerDid "decrypt-failed" now tf).2
              .sessionReset peerDid
              (beginLocalPeerRecovery daemon now peerDid "decrypt-failed" now tf).1.state.reason
              (beginLocalPeerRecovery daemon now peerDid "decrypt-failed" now tf).1.state.epoch now]
          else []) := by
  simp only [recoverFromDecryptFailure, Bool.not_false, Bool.and_true]
  split <;> rfl

theorem Agreeing.step_decryptFailure (h : Agreeing did events s) (side : Side) (now : ℤ)
    (tf : Bool) :
    SideStep did s side
      (recoverFromDecryptFailure (s.daemon side) now (did side.other) tf false).1
      (s.inFlight ++
        (recoverFromDecryptFailure (s.daemon side) now (did side.other) tf false).2)
      (.started side (generatedEpoch (beginLocalPeerRecovery (s.daemon side) now
        (did side.other) "decrypt-failed" now tf).1)) := by
  rw [recoverFromDecryptFailure_sends]
  refine h.step_local rfl (fun hstarted => ?_) fun envelope hmem => ?_
  · exact if_pos hstarted
  · split at hmem
    · exact ⟨_, List.mem_singleton.mp hmem⟩
    · cases hmem

/-- The reset by hand carries its own reason, also for a recovery that was started for another
one. -/
theorem Agreeing.step_manualReset (h : Agreeing did events s) (side : Side) (now : ℤ) (tf : Bool) :
    SideStep did s side (manualReset (s.daemon side) now (did side.other) tf false).1
      (s.inFlight ++ (manualReset (s.daemon side) now (did side.other) tf false).2)
      (.started side (generatedEpoch (beginLocalPeerRecovery (s.daemon side) now
        (did side.other) "manual-reset" now tf).1)) := by
  refine h.step_local rfl (fun hstarted => ?_) fun envelope hmem => ?_
  · rcases beginLocalPeerRecovery_cases (s.daemon side) now (did side.other) "manual-reset" now
        tf with ⟨existing, _, hbegin⟩ | ⟨_, _, hstate, _⟩
    · rw [hbegin] at hstarted
      cases hstarted
    · rw [hstate]
      simp only [manualReset, hstate, if_neg Bool.false_ne_true]
  · exact ⟨_, List.mem_singleton.mp hmem⟩

/-! ### Deliveries -/

/-- **Handling a reset** of an epoch, when every running recovery awaits its acknowledgement: a
higher recovery stands and its reset is sent again, and otherwise no recovery is left and the epoch
is acknowledged. -/
theorem handleSessionReset_answers {transactionFails : Bool} (hepoch : envelope.epoch = some epoch)
    (hawaiting : ∀ recovery, daemon.peerRecoveryStates.get? envelope.sender = some recovery →
      recovery.awaitingAck = true)
    (hresult : handleSessionReset daemon now envelope transactionFails false = result) :
    result.1.did = daemon.did ∧
      (∀ peer, peer ≠ envelope.sender →
        result.1.peerRecoveryStates.get? peer = daemon.peerRecoveryStates.get? peer) ∧
      max (daemon.floor envelope.sender) epoch ≤ result.1.floor envelope.sender ∧
      ((∃ current, daemon.peerRecoveryStates.get? envelope.sender = some current ∧
          epoch < current.epoch ∧
          result.1.peerRecoveryStates.get? envelope.sender = some current ∧
          result.2 = [controlEnvelope daemon .sessionReset envelope.sender current.reason
            current.epoch now]) ∨
        result.1.peerRecoveryStates.get? envelope.sender = none ∧
          ∃ reason, result.2 = [controlEnvelope daemon .sessionResetAck envelope.sender reason
            epoch now]) := by
  have hat : envelope.epochAt now = epoch := by rw [ControlEnvelope.epochAt, hepoch]; rfl
  have hnoted : (notePeerRecoveryEpoch daemon envelope.sender epoch).floor envelope.sender
      = max (daemon.floor envelope.sender) epoch := by
    rw [floor_notePeerRecoveryEpoch, if_pos rfl]
  simp only [handleSessionReset, hat, if_neg Bool.false_ne_true] at hresult
  rcases handleRemotePeerRecovery_cases daemon envelope.sender epoch
      (envelope.reason.getD "decrypt-failed") (envelope.timestamp.getD now) transactionFails with
    ⟨current, hcurrent, hle, hnext, hdecision⟩ | ⟨_, hnext, haction, hstate, hclear⟩
  · rw [hnext, hdecision] at hresult
    have hawait := hawaiting current hcurrent
    rcases hle.lt_or_eq with hlt | heq
    · -- a higher recovery awaits its acknowledgement
      simp only [hlt, hawait, and_self, if_true, decide_true, Bool.and_self, Bool.not_true,
        if_neg Bool.false_ne_true] at hresult
      subst hresult
      refine ⟨notePeerRecoveryEpoch_did .., fun peer _ => ?_, hnoted.ge,
        Or.inl ⟨current, hcurrent, hlt, ?_, ?_⟩⟩
      · rw [notePeerRecoveryEpoch_states]
      · rw [notePeerRecoveryEpoch_states]
        exact hcurrent
      · simp [RemoteRecoveryDecision.response, controlEnvelope]
    · -- both sides started with one epoch
      have hnlt : ¬epoch < current.epoch := by omega
      simp only [hnlt, false_and, if_false, decide_false, Bool.false_and, Bool.not_false,
        if_true] at hresult
      rcases clearPeerRecoveryState_cases (notePeerRecoveryEpoch daemon envelope.sender epoch)
          envelope.sender (some current.epoch) with ⟨found, _, _, hcleared⟩ | ⟨hkept, _⟩
      · rw [hcleared] at hresult
        subst hresult
        refine ⟨by simp, fun peer hpeer => ?_, ?_, Or.inr ⟨?_, current.reason, ?_⟩⟩
        · simp [Record.get?_erase, Ne.symm hpeer]
        · rw [← hnoted]
          exact le_floor_notePeerRecoveryEpoch
            { notePeerRecoveryEpoch daemon envelope.sender epoch with
              peerRecoveryStates := (notePeerRecoveryEpoch daemon envelope.sender
                epoch).peerRecoveryStates.erase envelope.sender } _ _ _
        · simp [Record.get?_erase]
        · simp [RemoteRecoveryDecision.response, controlEnvelope, heq]
      · rw [notePeerRecoveryEpoch_states] at hkept
        obtain ⟨e, he, hne⟩ := hkept current hcurrent
        exact absurd (Option.some.inj he) hne
  · -- the reset is applied, acknowledged, and its recovery is over
    obtain ⟨hstates, hfloors, hdid⟩ := enterRecovery_fields
      (notePeerRecoveryEpoch daemon envelope.sender epoch) envelope.sender
      { epoch, startedAt := envelope.timestamp.getD now
        reason := envelope.reason.getD "decrypt-failed", awaitingAck := false } transactionFails
    rw [← hnext] at hstates hfloors hdid
    rw [if_pos hclear] at hresult
    simp only [RemoteRecoveryDecision.response, haction, hstate] at hresult
    rcases clearPeerRecoveryState_cases (handleRemotePeerRecovery daemon envelope.sender epoch
        (envelope.reason.getD "decrypt-failed") (envelope.timestamp.getD now)
        transactionFails).2 envelope.sender (some epoch) with ⟨found, _, _, hcleared⟩ | ⟨hkept, _⟩
    · rw [hcleared] at hresult
      subst hresult
      refine ⟨?_, fun peer hpeer => ?_, ?_,
        Or.inr ⟨?_, envelope.reason.getD "decrypt-failed", ?_⟩⟩
      · rw [notePeerRecoveryEpoch_did]
        exact hdid.trans (notePeerRecoveryEpoch_did ..)
      · simp [Record.get?_erase, Ne.symm hpeer, hstates, Record.get?_set]
      · rw [← hnoted, ← floor_of_floors hfloors envelope.sender]
        exact le_floor_notePeerRecoveryEpoch
          { (handleRemotePeerRecovery daemon envelope.sender epoch
              (envelope.reason.getD "decrypt-failed") (envelope.timestamp.getD now)
              transactionFails).2 with
            peerRecoveryStates := (handleRemotePeerRecovery daemon envelope.sender epoch
              (envelope.reason.getD "decrypt-failed") (envelope.timestamp.getD now)
              transactionFails).2.peerRecoveryStates.erase envelope.sender } _ _ _
      · simp [Record.get?_erase]
      · simp [controlEnvelope, hdid]
    · rw [hstates, Record.get?_set_self] at hkept
      obtain ⟨e, he, hne⟩ := hkept _ rfl
      exact absurd (Option.some.inj he) hne

/-- A control envelope that reaches a side was sent by the other one. -/
theorem Agreeing.sent_by_other (hdid : Function.Injective did) (h : Agreeing did events s)
    (hmem : envelope ∈ s.inFlight) (hreceiver : envelope.receiver = did side) :
    ∃ epoch, RoutedFrom did s.daemon side.other envelope epoch := by
  obtain ⟨side', epoch, hrouted⟩ := h.routed envelope hmem
  have hside : side'.other = side := hdid (hrouted.receiver.symm.trans hreceiver)
  rw [← hside, Side.other_other]
  exact ⟨epoch, hrouted⟩

/-- An envelope that settles a recovery stays in flight until it is delivered itself. -/
theorem settled_erase (hsettled : ∃ e ∈ inFlight, Settles did side epoch e)
    (hnot : ¬Settles did side epoch envelope) (answers : List (ControlEnvelope ℤ)) :
    ∃ e ∈ inFlight.erase envelope ++ answers, Settles did side epoch e := by
  obtain ⟨e, hmem, hsettles⟩ := hsettled
  have hne : e ≠ envelope := by
    intro heq
    exact hnot (heq ▸ hsettles)
  exact ⟨e, List.mem_append_left _ ((List.mem_erase_of_ne hne).mpr hmem), hsettles⟩

/-- **A delivered reset.** -/
theorem Agreeing.step_reset (hdid : Function.Injective did) (h : Agreeing did events s)
    (hmem : envelope ∈ s.inFlight) (hreceiver : envelope.receiver = did side)
    (hprotocol : envelope.protocol = .sessionReset)
    (hresult : handleSessionReset (s.daemon side) now envelope tf false = result) :
    SideStep did s side result.1 (s.inFlight.erase envelope ++ result.2)
      (.received side (envelope.epochAt now)) := by
  obtain ⟨epoch, hrouted⟩ := h.sent_by_other hdid hmem hreceiver
  have hsender := hrouted.sender
  have hat : envelope.epochAt now = epoch := by
    rw [ControlEnvelope.epochAt, hrouted.carries]
    rfl
  have hother : (Function.update s.daemon side result.1) side.other = s.daemon side.other :=
    Function.update_of_ne side.other_ne ..
  obtain ⟨hdids, hpeers, hfloor, hanswer⟩ := handleSessionReset_answers hrouted.carries
    (fun recovery hrecovery => (h.awaiting side recovery (hsender ▸ hrecovery)).awaitingAck)
    hresult
  rw [hsender] at hpeers hfloor hanswer
  have hdid' : result.1.did = did side := hdids.trans (h.dids side)
  have hup : (s.daemon side).floor (did side.other) ≤ result.1.floor (did side.other) :=
    (le_max_left _ _).trans hfloor
  refine ⟨hdid', ?_, hup, ?_, ?_, ?_, ?_, ?_, ?_⟩
  · intro peer hpeer
    rw [hpeers peer hpeer]
    exact h.alone side peer hpeer
  · intro envelope' hmem'
    rcases List.mem_append.mp hmem' with hold | hnew
    · exact Or.inl (List.mem_of_mem_erase hold)
    · right
      rcases hanswer with ⟨current, hcurrent, _, _, hsent⟩ | ⟨_, reason, hsent⟩
      · rw [hsent, List.mem_singleton] at hnew
        refine ⟨current.epoch, hnew ▸ routedFrom_reset (h.dids side) _ _ ?_⟩
        rw [Function.update_self]
        exact (h.awaiting side current hcurrent).le_floor.trans hup
      · rw [hsent, List.mem_singleton] at hnew
        subst hnew
        refine ⟨epoch, h.dids side, rfl, rfl, (fun hreset => by cases hreset), fun _ => ?_⟩
        have hle := hrouted.reset hprotocol
        rw [Side.other_other] at hle
        rw [hother]
        exact hle
  · intro recovery hrecovery
    rcases hanswer with ⟨current, hcurrent, _, hkept, hsent⟩ | ⟨hnone, _⟩
    · rw [hkept, Option.some.injEq] at hrecovery
      subst hrecovery
      obtain ⟨hack, hle, _⟩ := h.awaiting side current hcurrent
      rw [hsent]
      exact ⟨hack, hle.trans hup, _, List.mem_append_right _ List.mem_cons_self,
        .reset rfl (h.dids side) rfl⟩
    · rw [hnone] at hrecovery
      cases hrecovery
  · intro recovery _ hsettled
    by_cases hits : Settles did side.other recovery.epoch envelope
    · -- the reset of the other side is answered by what settles its recovery
      have hepoch : recovery.epoch = epoch := by
        cases hits with
        | reset _ _ hcarries => exact Option.some.inj (hcarries.symm.trans hrouted.carries)
        | ack hack _ _ => rw [hprotocol] at hack; cases hack
        | higher _ hto _ _ =>
          exact absurd (hdid (hto.symm.trans hreceiver)) side.other_ne
      rcases hanswer with ⟨current, _, hlt, _, hsent⟩ | ⟨_, reason, hsent⟩
      · refine ⟨_, List.mem_append_right _ (hsent ▸ List.mem_cons_self), ?_⟩
        exact .higher rfl rfl rfl (hepoch ▸ hlt)
      · refine ⟨_, List.mem_append_right _ (hsent ▸ List.mem_cons_self), ?_⟩
        exact .ack rfl rfl (hepoch ▸ rfl)
    · exact settled_erase hsettled hits _
  · intro e he
    rw [PairEvent.epochs, if_pos rfl, List.mem_singleton, hat] at he
    rw [he]
    exact (le_max_right _ _).trans hfloor
  · rw [PairEvent.epochs, if_neg (Ne.symm side.other_ne)]
  · intro side' e hevent
    cases hevent

/-- **A delivered acknowledgement.** -/
theorem Agreeing.step_ack (hdid : Function.Injective did) (h : Agreeing did events s)
    (hmem : envelope ∈ s.inFlight) (hreceiver : envelope.receiver = did side)
    (hprotocol : envelope.protocol = .sessionResetAck) :
    SideStep did s side (handleSessionResetAck (s.daemon side) now envelope)
      (s.inFlight.erase envelope ++ []) (.received side (envelope.epochAt now)) := by
  obtain ⟨epoch, hrouted⟩ := h.sent_by_other hdid hmem hreceiver
  have hsender := hrouted.sender
  have hat : envelope.epochAt now = epoch := by
    rw [ControlEnvelope.epochAt, hrouted.carries]
    rfl
  have hle := hrouted.ack hprotocol
  rw [Side.other_other] at hle
  have hup := le_floor_clearPeerRecoveryState (s.daemon side) (did side.other) (did side.other)
    (some epoch)
  rw [handleSessionResetAck, hat, hsender]
  have hnever {side' : Side} {epoch' : ℤ} (hne : side' = side → epoch' ≠ epoch) :
      ¬Settles did side' epoch' envelope := by
    intro hsettles
    cases hsettles with
    | reset hreset _ _ => rw [hprotocol] at hreset; cases hreset
    | ack _ hto hcarries =>
      exact hne (hdid (hto.symm.trans hreceiver))
        (Option.some.inj (hcarries.symm.trans hrouted.carries))
    | higher hreset _ _ _ => rw [hprotocol] at hreset; cases hreset
  have hothers (recovery : PeerRecoveryState ℤ)
      (hsettled : ∃ e ∈ s.inFlight, Settles did side.other recovery.epoch e) :=
    settled_erase hsettled (hnever fun heq => absurd heq side.other_ne) []
  have hepochs : ∀ e ∈ (PairEvent.received side epoch).epochs side,
      e ≤ (clearPeerRecoveryState (s.daemon side) (did side.other) (some epoch)).2.floor
        (did side.other) := by
    intro e he
    rw [PairEvent.epochs, if_pos rfl, List.mem_singleton] at he
    rw [he]
    exact hle.trans hup
  have hnothing : (PairEvent.received side epoch).epochs side.other = [] := by
    rw [PairEvent.epochs, if_neg (Ne.symm side.other_ne)]
  rcases clearPeerRecoveryState_cases (s.daemon side) (did side.other) (some epoch) with
    ⟨current, hcurrent, _, hcleared⟩ | ⟨hkept, hcleared⟩
  · refine ⟨?_, ?_, hup, ?_, ?_, fun recovery _ => hothers recovery, hepochs, hnothing, ?_⟩
    · rw [hcleared, notePeerRecoveryEpoch_did]
      exact h.dids side
    · intro peer hpeer
      rw [hcleared, notePeerRecoveryEpoch_states, Record.get?_erase, if_neg (Ne.symm hpeer)]
      exact h.alone side peer hpeer
    · intro envelope' hmem'
      rw [List.append_nil] at hmem'
      exact Or.inl (List.mem_of_mem_erase hmem')
    · intro recovery hrecovery
      rw [hcleared, notePeerRecoveryEpoch_states, Record.get?_erase, if_pos rfl] at hrecovery
      cases hrecovery
    · intro side' e hevent
      cases hevent
  · rw [hcleared] at hup hepochs ⊢
    refine ⟨h.dids side, h.alone side, hup, ?_, ?_, fun recovery _ => hothers recovery,
      hepochs, hnothing, ?_⟩
    · intro envelope' hmem'
      rw [List.append_nil] at hmem'
      exact Or.inl (List.mem_of_mem_erase hmem')
    · intro recovery hrecovery
      obtain ⟨hack, hfloor, hsettled⟩ := h.awaiting side recovery hrecovery
      obtain ⟨e, he, hne⟩ := hkept recovery hrecovery
      refine ⟨hack, hfloor, settled_erase hsettled (hnever fun _ => ?_) []⟩
      rw [Option.some.inj he]
      exact hne
    · intro side' e hevent
      cases hevent

/-! ### Runs -/

/-- **A step of the pair** keeps the invariant. -/
theorem Agreeing.step (hdid : Function.Injective did) {s' : RecoveryPair}
    (h : Agreeing did events s) (hstep : PairStep did s event s') :
    Agreeing did (events ++ [event]) s' := by
  cases hstep with
  | decryptFailure side now tf => exact h.step_side (h.step_decryptFailure side now tf)
  | manualReset side now tf => exact h.step_side (h.step_manualReset side now tf)
  | @deliver side now tf envelope hmem hreceiver =>
    cases hprotocol : envelope.protocol with
    | sessionReset =>
      have hhandled : handleControlEnvelope (s.daemon side) now envelope tf false
          = handleSessionReset (s.daemon side) now envelope tf false := by
        rw [handleControlEnvelope, hprotocol]
      rw [hhandled]
      exact h.step_side (h.step_reset hdid hmem hreceiver hprotocol rfl)
    | sessionResetAck =>
      have hhandled : handleControlEnvelope (s.daemon side) now envelope tf false
          = (handleSessionResetAck (s.daemon side) now envelope, []) := by
        rw [handleControlEnvelope, hprotocol]
      rw [hhandled]
      exact h.step_side (h.step_ack hdid hmem hreceiver hprotocol)

/-- **Agreement.**  In every state that two daemons reach from rest, with clocks that read anything
and envelopes delivered in any order: when nothing is in flight neither of them has a recovery
state, and no epoch was generated that is not above all epochs that its daemon had generated or
received before. -/
theorem recovery_agreement {did : Side → String} (hdid : did .a ≠ did .b)
    {start s : RecoveryPair} {events : List PairEvent} (hstart : start.Initial did)
    (hrun : Trace (PairStep did) start events s) :
    (s.inFlight = [] → ∀ side peer, (s.daemon side).peerRecoveryStates.get? peer = none) ∧
      events.Pairwise fun earlier later =>
        ∀ side epoch, later = .started side (some epoch) →
          ∀ e ∈ earlier.epochs side, e < epoch := by
  have hinj : Function.Injective did := by
    intro side side' heq
    cases side <;> cases side'
    · rfl
    · exact absurd heq hdid
    · exact absurd heq.symm hdid
    · rfl
  have hagree : Agreeing did events s :=
    hrun.invariant (Agreeing did) (.initial hstart) fun _ h hstep => h.step hinj hstep
  refine ⟨fun hsilent side peer => ?_, hagree.increasing⟩
  by_cases hpeer : peer = did side.other
  · subst hpeer
    cases hrecovery : (s.daemon side).peerRecoveryStates.get? (did side.other) with
    | none => rfl
    | some recovery =>
      obtain ⟨envelope, hmem, _⟩ := (hagree.awaiting side recovery hrecovery).settled
      rw [hsilent] at hmem
      cases hmem
  · exact hagree.alone side peer hpeer

/-! ### Crossing starts -/

/-- Deliver the first envelope in flight that is for a side. -/
def RecoveryPair.deliverFirst (did : Side → String) (s : RecoveryPair) (side : Side) (now : ℤ) :
    RecoveryPair :=
  match s.inFlight.find? fun envelope => envelope.receiver = did side with
  | none => s
  | some envelope =>
      s.after side (handleControlEnvelope (s.daemon side) now envelope false false)
        (s.inFlight.erase envelope)

theorem deliverFirst_run {start : RecoveryPair} (h : ∃ events, Trace (PairStep did) start events s)
    (side : Side) (now : ℤ) :
    ∃ events, Trace (PairStep did) start events (s.deliverFirst did side now) := by
  obtain ⟨events, hrun⟩ := h
  rw [RecoveryPair.deliverFirst]
  cases hfirst : s.inFlight.find? fun envelope => envelope.receiver = did side with
  | none => exact ⟨events, hrun⟩
  | some envelope =>
    have hreceiver : envelope.receiver = did side := by
      simpa using List.find?_some hfirst
    exact ⟨_, hrun.snoc (.deliver side now false (List.mem_of_find?_eq_some hfirst) hreceiver)⟩

def aliceAndBob : Side → String
  | .a => "did:a"
  | .b => "did:b"

def restingPair : RecoveryPair where
  daemon side :=
    { did := aliceAndBob side
      pendingReplayBatches := .empty
      pendingRetryNotifications := .empty
      peerRecoveryStates := .empty
      peerRecoveryEpochFloors := .empty
      e2eConfig := { currentDeviceId := "laptop", devices := .empty } }
  inFlight := []

/-- Both daemons start a recovery; Bob's has the higher epoch, so he sends his reset again when
Alice's lower one arrives. -/
def crossingStarts : RecoveryPair :=
  let alice := restingPair.after .a
    (recoverFromDecryptFailure (restingPair.daemon .a) 100 "did:b" false false) []
  let both := alice.after .b
    (manualReset (alice.daemon .b) 200 "did:a" false false) alice.inFlight
  ((((both.deliverFirst aliceAndBob .b 205).deliverFirst aliceAndBob .a 110).deliverFirst
    aliceAndBob .b 220).deliverFirst aliceAndBob .a 130).deliverFirst aliceAndBob .b 240

theorem recovery_agreement_crossing :
    (crossingStarts.daemon .a).peerRecoveryStates.get? "did:b" = none ∧
      (crossingStarts.daemon .b).peerRecoveryStates.get? "did:a" = none := by
  have hdid : aliceAndBob .a ≠ aliceAndBob .b := by decide
  have hstart : restingPair.Initial aliceAndBob := ⟨fun _ => rfl, fun _ => rfl, rfl⟩
  have hrun : ∃ events, Trace (PairStep aliceAndBob) restingPair events crossingStarts :=
    deliverFirst_run (deliverFirst_run (deliverFirst_run (deliverFirst_run (deliverFirst_run
      ⟨_, (Trace.nil.snoc (.decryptFailure .a 100 false)).snoc (.manualReset .b 200 false)⟩
      .b 205) .a 110) .b 220) .a 130) .b 240
  obtain ⟨events, hrun⟩ := hrun
  have hnone := (recovery_agreement hdid hstart hrun).1 (by decide +kernel)
  exact ⟨hnone .a "did:b", hnone .b "did:a"⟩

end QuadraA.Runtime
