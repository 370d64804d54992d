import QuadraA.Lib.Trace
import QuadraA.RuntimeRs.RelayWorker

/-!
# Acknowledged deliveries

`next_deliver` of the relay session between its awaits, as a branch of the `select!` in
`run_relay_worker`: it takes a message, sets it aside, answers a PING, or acknowledges a DELIVER and
returns it; and another branch that is ready drops it at any of its awaits.

* `acked_handed_over` — what is acknowledged is handed over in every run of calm steps;
* `acked_lost` — a cancellation while the ACK is flushed, and one behind a deferred message.
-/

namespace QuadraA.RuntimeRs

open QuadraA.Lib

/-! ### The worker -/

/-- A message by its number in the order of arrival, and whether it has been taken from
`pending_messages`. -/
structure Arrival where
  seq : ℕ
  message : RelayMessage
  taken : Bool
deriving DecidableEq

/-- **Where the worker waits**: in `next_deliver` for a message, for its PONG or for its ACK, that
is in the buffer of the socket or not yet; or in `wait_delivery_report_with_id`, which no branch
can cancel, for a message or its PONG. -/
inductive DeliverStage where
  | reading (deferred : List Arrival)
  | ponging (ping : Arrival) (deferred : List Arrival) (sending : Bool)
  | acknowledging (deliver : Arrival) (written : Bool)
  | awaitingAcceptance (deferred : List Arrival)
  | disconnected
deriving DecidableEq

/-- What is in the hands of the future that waits. -/
def DeliverStage.held : DeliverStage → List Arrival
  | .reading deferred => deferred
  | .ponging ping deferred _ => ping :: deferred
  | .acknowledging deliver _ => [deliver]
  | .awaitingAcceptance deferred => deferred
  | .disconnected => []

/-- The worker with its connection.  `arrivals` counts the messages of the relay; `taken`, `acked`
and `handled` say which have been taken from `pending_messages`, acknowledged and dealt with. -/
structure DeliverWorker where
  stream : List Arrival
  pendingMessages : List Arrival
  stage : DeliverStage
  arrivals : ℕ
  taken : List ℕ
  acked : List Arrival
  handled : List ℕ
  events : List (ℕ × RelayWorkerEvent)
deriving DecidableEq

/-- The branches of the `select!` that win against `next_deliver`, with the outcome of what they
send. -/
inductive Winner where
  | sendEnvelope (sent : Bool)
  | ping (sent : Bool)
  | maintenance
  | stop
deriving DecidableEq

/-- Where the worker goes on behind the branch. -/
def Winner.stage : Winner → DeliverStage
  | .sendEnvelope true => .awaitingAcceptance []
  | .ping true => .reading []
  | .maintenance => .reading []
  | _ => .disconnected

inductive DeliverAction where
  | relaySends (message : RelayMessage)
  | read
  | pongSent
  | ackWritten
  | ackFlushed
  | cancelled (winner : Winner)
  | failed
deriving DecidableEq

namespace DeliverWorker

/-- The next message, from `pending_messages` if there is one. -/
def take (s : DeliverWorker) : Option (Arrival × DeliverWorker) :=
  match s.pendingMessages, s.stream with
  | arrival :: pendingMessages, _ =>
      some ({ arrival with taken := true },
        { s with pendingMessages := pendingMessages, taken := s.taken ++ [arrival.seq] })
  | [], arrival :: stream => some (arrival, { s with stream := stream })
  | [], [] => none

def restorePendingMessages (s : DeliverWorker) (deferred : List Arrival) : DeliverWorker :=
  { s with pendingMessages := deferred ++ s.pendingMessages }

/-- An event of a message, which is dealt with. -/
def emit (s : DeliverWorker) (arrival : Arrival) (event : RelayWorkerEvent) : DeliverWorker :=
  { s with
    handled := s.handled ++ [arrival.seq]
    events := s.events ++ [(arrival.seq, event)] }

/-- A round of `next_deliver`, up to its next await. -/
def nextDeliver (s : DeliverWorker) (deferred : List Arrival) (arrival : Arrival) :
    DeliverWorker :=
  match arrival.message with
  | .deliver _ _ (.ok _) =>
      { s.restorePendingMessages deferred with stage := .acknowledging arrival false }
  | .deliver _ _ (.error _) => { s with stage := .disconnected }
  | .deliveryReport report =>
      { (s.restorePendingMessages deferred).emit arrival (.deliveryReported report) with
        stage := .reading [] }
  | .ping => { s with stage := .ponging arrival deferred false }
  | .other _ => { s with stage := .reading (deferred ++ [arrival]) }

/-- A round of `wait_for_send_acceptance`, through `wait_delivery_report_with_id`. -/
def waitForSendAcceptance (s : DeliverWorker) (deferred : List Arrival) (arrival : Arrival) :
    DeliverWorker :=
  match arrival.message with
  | .deliveryReport report =>
      let s := s.restorePendingMessages deferred
      match acceptance report with
      | none => { s.emit arrival (.deliveryReported report) with stage := .awaitingAcceptance [] }
      | some (.error (.fatal _)) =>
          { s with stage := .disconnected, handled := s.handled ++ [arrival.seq] }
      | some _ => { s with stage := .reading [], handled := s.handled ++ [arrival.seq] }
  | .ping => { s with stage := .ponging arrival deferred true }
  | _ => { s with stage := .awaitingAcceptance (deferred ++ [arrival]) }

/-- Another branch can win while `next_deliver` has not been polled, or awaits. -/
def Cancellable (s : DeliverWorker) : Prop :=
  match s.stage with
  | .reading deferred => deferred = [] ∨ s.pendingMessages = []
  | .ponging _ _ sending => sending = false
  | .acknowledging _ _ => True
  | _ => False

instance (s : DeliverWorker) : Decidable s.Cancellable := by
  unfold Cancellable
  cases s.stage <;> infer_instance

/-- **The worker and the relay**, one action at a time. -/
def step? (s : DeliverWorker) : DeliverAction → Option DeliverWorker
  | .relaySends message =>
      some { s with
        stream := s.stream ++ [⟨s.arrivals, message, false⟩]
        arrivals := s.arrivals + 1 }
  | .read =>
      match s.stage, s.take with
      | .reading deferred, some (arrival, s) => some (s.nextDeliver deferred arrival)
      | .awaitingAcceptance deferred, some (arrival, s) =>
          some (s.waitForSendAcceptance deferred arrival)
      | _, _ => none
  | .pongSent =>
      match s.stage with
      | .ponging ping deferred sending =>
          some { s with
            stage := if sending then .awaitingAcceptance deferred else .reading deferred
            handled := s.handled ++ [ping.seq] }
      | _ => none
  | .ackWritten =>
      match s.stage with
      | .acknowledging deliver false =>
          some { s with stage := .acknowledging deliver true, acked := s.acked ++ [deliver] }
      | _ => none
  | .ackFlushed =>
      match s.stage with
      | .acknowledging deliver true =>
          match deliver.message with
          | .deliver messageId sender (.ok envelopeBytes) =>
              some { s.emit deliver (receivedEvent messageId sender envelopeBytes) with
                stage := .reading [] }
          | _ => none
      | _ => none
  | .cancelled winner =>
      if s.Cancellable then some { s with stage := winner.stage } else none
  | .failed =>
      match s.stage with
      | .disconnected => none
      | .awaitingAcceptance deferred =>
          some { s.restorePendingMessages deferred with stage := .disconnected }
      | _ => some { s with stage := .disconnected }

end DeliverWorker

/-! ### Calm steps -/

/-- A DELIVER whose envelope is no bytes. -/
def RelayMessage.undecodable : RelayMessage → Bool
  | .deliver _ _ (.error _) => true
  | _ => false

/-- A DELIVER whose `from` passes for a report. -/
def RelayMessage.passesForReport : RelayMessage → Bool
  | .deliver _ sender _ => (reportStatus? sender).isSome
  | _ => false

/-- No ACK is written that waits to be flushed. -/
def DeliverStage.NoWrittenAck (stage : DeliverStage) : Prop :=
  ∀ deliver, stage ≠ .acknowledging deliver true

/-- The future holds no message of `pending_messages`. -/
def DeliverStage.HoldsNoneTaken (stage : DeliverStage) : Prop :=
  ∀ arrival ∈ stage.held, arrival.taken = false

/-- **The condition on a step.**  A future that is dropped, by another branch or by its own failure,
has no ACK written and holds no message of `pending_messages`; and no DELIVER that is acknowledged
passes for a report. -/
def DeliverWorker.Calm (s : DeliverWorker) : DeliverAction → Prop
  | .read => ∀ deferred arrival t, s.stage = .reading deferred → s.take = some (arrival, t) →
      arrival.message.undecodable = true → arrival.taken = false ∧ s.stage.HoldsNoneTaken
  | .ackFlushed =>
      ∀ deliver, s.stage = .acknowledging deliver true → deliver.message.passesForReport = false
  | .cancelled _ => s.stage.NoWrittenAck ∧ s.stage.HoldsNoneTaken
  | .failed => (∃ deferred, s.stage = .awaitingAcceptance deferred) ∨
      s.stage.NoWrittenAck ∧ s.stage.HoldsNoneTaken
  | _ => True

def DeliverStep (s : DeliverWorker) (action : DeliverAction) (t : DeliverWorker) : Prop :=
  s.step? action = some t

def CalmDeliverStep (s : DeliverWorker) (action : DeliverAction) (t : DeliverWorker) : Prop :=
  DeliverStep s action t ∧ s.Calm action

/-! ### Messages at their places -/

/-- The messages that are somewhere, with those that are in hand between two places. -/
def DeliverWorker.places (s : DeliverWorker) (hand : List Arrival) : List Arrival :=
  hand ++ s.stage.held ++ s.pendingMessages ++ s.stream

/-- How often a message is somewhere, or dealt with. -/
def DeliverWorker.tally (s : DeliverWorker) (hand : List Arrival) (seq : ℕ) : ℕ :=
  ((s.places hand).map (·.seq)).count seq + s.handled.count seq

/-- A DELIVER is handed over. -/
def DeliverWorker.Emits (s : DeliverWorker) (deliver : Arrival) : Prop :=
  ∃ messageId sender envelopeBytes,
    deliver.message = .deliver messageId sender (.ok envelopeBytes) ∧
      (deliver.seq, .envelopeReceived messageId sender envelopeBytes) ∈ s.events

/-- **The invariant.**  Each message is at one place or dealt with, and not twice; the events are of
messages that are dealt with; an acknowledged message is handed over or about to be; and a message
taken from `pending_messages` is dealt with or still there. -/
structure Accounted (hand : List Arrival) (s : DeliverWorker) : Prop where
  once : ∀ seq, s.tally hand seq ≤ 1
  arrived : ∀ seq, 0 < s.tally hand seq → seq < s.arrivals
  events : ∀ seq, (s.events.map Prod.fst).count seq ≤ s.handled.count seq
  acked : ∀ deliver ∈ s.acked, s.Emits deliver ∨ s.stage = .acknowledging deliver true
  taken : ∀ seq ∈ s.taken,
    seq ∈ s.handled ∨ ∃ arrival ∈ s.places hand, arrival.taken = true ∧ arrival.seq = seq

/-! ### One action -/

section

variable {s s' : DeliverWorker} {hand hand' : List Arrival} {arrival : Arrival}

/-- **A message moves**, or goes: no message is at more places than before. -/
theorem Accounted.move (h : Accounted hand s)
    (htally : ∀ seq, s'.tally hand' seq ≤ s.tally hand seq) (harrivals : s'.arrivals = s.arrivals)
    (hevents : ∀ seq, (s'.events.map Prod.fst).count seq ≤ s'.handled.count seq)
    (hacked : ∀ deliver ∈ s'.acked, s'.Emits deliver ∨ s'.stage = .acknowledging deliver true)
    (htaken : ∀ seq ∈ s'.taken, seq ∈ s'.handled ∨
      ∃ arrival ∈ s'.places hand', arrival.taken = true ∧ arrival.seq = seq) :
    Accounted hand' s' where
  once seq := Nat.le_trans (htally seq) (h.once seq)
  arrived seq hpos := by
    rw [harrivals]
    exact h.arrived seq (Nat.lt_of_lt_of_le hpos (htally seq))
  events := hevents
  acked := hacked
  taken := htaken

/-- Taking a message puts it in hand. -/
theorem Accounted.take (h : Accounted [] s) (htake : s.take = some (arrival, s')) :
    Accounted [arrival] s' ∧ s'.stage = s.stage := by
  obtain ⟨stream, pendingMessages, stage, arrivals, taken, acked, handled, events⟩ := s
  cases pendingMessages with
  | cons first rest =>
    cases htake
    refine ⟨h.move (fun seq => ?_) rfl h.events h.acked fun seq hseq => ?_, rfl⟩
    · simp only [DeliverWorker.tally, DeliverWorker.places, List.map_append, List.map_cons,
        List.map_nil, List.count_append, List.count_cons, List.count_nil]
      omega
    · rcases List.mem_append.mp hseq with hseq | hseq
      · rcases h.taken seq hseq with hhandled | ⟨found, hfound, htaken, hsame⟩
        · exact Or.inl hhandled
        · refine Or.inr ?_
          by_cases hfirst : found = first
          · exact ⟨{ first with taken := true }, by simp [DeliverWorker.places], rfl,
              by rw [← hsame, hfirst]⟩
          · refine ⟨found, ?_, htaken, hsame⟩
            simp only [DeliverWorker.places, List.nil_append, List.mem_append, List.mem_cons,
              hfirst, false_or] at hfound
            simp only [DeliverWorker.places, List.mem_append]
            tauto
      · rw [List.mem_singleton] at hseq
        exact Or.inr ⟨{ first with taken := true }, by simp [DeliverWorker.places], rfl, hseq.symm⟩
  | nil =>
    cases stream with
    | nil => cases htake
    | cons first rest =>
      cases htake
      refine ⟨h.move (fun seq => ?_) rfl h.events h.acked fun seq hseq => ?_, rfl⟩
      · simp only [DeliverWorker.tally, DeliverWorker.places, List.map_append, List.map_cons,
          List.map_nil, List.count_append, List.count_cons, List.count_nil]
        omega
      · rcases h.taken seq hseq with hhandled | ⟨found, hfound, htaken, hsame⟩
        · exact Or.inl hhandled
        · refine Or.inr ⟨found, ?_, htaken, hsame⟩
          simp only [DeliverWorker.places, List.nil_append, List.mem_append, List.mem_cons,
            List.not_mem_nil, or_false] at hfound ⊢
          tauto

/-- Nothing waits for its ACK: what is acknowledged is handed over. -/
theorem Accounted.emitted (h : Accounted hand s) (hstage : s.stage.NoWrittenAck) :
    ∀ deliver ∈ s.acked, s.Emits deliver := by
  intro deliver hdeliver
  rcases h.acked deliver hdeliver with hemits | habsurd
  · exact hemits
  · exact absurd habsurd (hstage deliver)

/-- Later events leave what is handed over. -/
theorem DeliverWorker.Emits.append {deliver : Arrival} (h : s.Emits deliver)
    {later : List (ℕ × RelayWorkerEvent)} (hevents : s'.events = s.events ++ later) :
    s'.Emits deliver := by
  obtain ⟨messageId, sender, envelopeBytes, hmessage, hmem⟩ := h
  refine ⟨messageId, sender, envelopeBytes, hmessage, ?_⟩
  rw [hevents]
  exact List.mem_append_left _ hmem

/-- **Messages go to other places**, and some are dropped: none of them has been taken from
`pending_messages`. -/
theorem Accounted.change (h : Accounted hand s) (hstage : s.stage.NoWrittenAck)
    (dropped : List Arrival) (hperm : (s'.places hand' ++ dropped).Perm (s.places hand))
    (hdropped : ∀ arrival ∈ dropped, arrival.taken = false)
    (harrivals : s'.arrivals = s.arrivals) (hhandled : s'.handled = s.handled)
    (hevents : s'.events = s.events) (hacked : s'.acked = s.acked) (htaken : s'.taken = s.taken) :
    Accounted hand' s' := by
  refine h.move (fun seq => ?_) harrivals (by rw [hevents, hhandled]; exact h.events)
    (fun deliver hdeliver => ?_) fun seq hseq => ?_
  · have hcount := (hperm.map (·.seq)).count_eq seq
    rw [List.map_append, List.count_append] at hcount
    rw [DeliverWorker.tally, DeliverWorker.tally, hhandled]
    omega
  · rw [hacked] at hdeliver
    exact Or.inl ((h.emitted hstage deliver hdeliver).append
      (hevents.trans (List.append_nil _).symm))
  · rw [htaken] at hseq
    rw [hhandled]
    rcases h.taken seq hseq with hdone | ⟨found, hfound, hfoundTaken, hsame⟩
    · exact Or.inl hdone
    · rcases List.mem_append.mp (hperm.mem_iff.mpr hfound) with hplace | hgone
      · exact Or.inr ⟨found, hplace, hfoundTaken, hsame⟩
      · rw [hdropped found hgone] at hfoundTaken
        cases hfoundTaken

/-- **A message is dealt with**, with an event or without. -/
theorem Accounted.handle (h : Accounted hand s) (event : Option RelayWorkerEvent)
    (hstage : ∀ deliver, s.stage = .acknowledging deliver true → s'.Emits deliver)
    (hperm : ([arrival] ++ s'.places []).Perm (s.places hand))
    (hhandled : s'.handled = s.handled ++ [arrival.seq]) (harrivals : s'.arrivals = s.arrivals)
    (hevents : s'.events = s.events ++ (event.map fun e => (arrival.seq, e)).toList)
    (hacked : s'.acked = s.acked) (htaken : s'.taken = s.taken) : Accounted [] s' := by
  refine h.move (fun seq => ?_) harrivals (fun seq => ?_) (fun deliver hdeliver => ?_)
    fun seq hseq => ?_
  · have hcount := (hperm.map (·.seq)).count_eq seq
    rw [List.map_append, List.count_append] at hcount
    rw [DeliverWorker.tally, DeliverWorker.tally, hhandled, List.count_append]
    change [arrival.seq].count seq + _ = _ at hcount
    omega
  · have hbefore := h.events seq
    rw [hevents, hhandled, List.map_append, List.count_append, List.count_append]
    cases event with
    | none => exact Nat.le_trans hbefore (Nat.le_add_right _ _)
    | some event => exact Nat.add_le_add_right hbefore _
  · rw [hacked] at hdeliver
    rcases h.acked deliver hdeliver with hemits | hwritten
    · exact Or.inl (hemits.append hevents)
    · exact Or.inl (hstage deliver hwritten)
  · rw [htaken] at hseq
    rw [hhandled]
    rcases h.taken seq hseq with hdone | ⟨found, hfound, hfoundTaken, hsame⟩
    · exact Or.inl (List.mem_append_left _ hdone)
    · rcases List.mem_append.mp (hperm.mem_iff.mpr hfound) with hhand | hplace
      · rw [List.mem_singleton] at hhand
        rw [← hsame, hhand]
        exact Or.inl (List.mem_append_right _ List.mem_cons_self)
      · exact Or.inr ⟨found, hplace, hfoundTaken, hsame⟩

variable {deferred : List Arrival}

/-- **A round of `next_deliver`** puts the message in hand at one place. -/
theorem Accounted.nextDeliver (h : Accounted [arrival] s) (hstage : s.stage = .reading deferred)
    (hdecodable : arrival.message.undecodable = true →
      arrival.taken = false ∧ s.stage.HoldsNoneTaken) :
    Accounted [] (s.nextDeliver deferred arrival) := by
  have hnone : s.stage.NoWrittenAck := by
    intro deliver
    rw [hstage]
    nofun
  rw [DeliverWorker.nextDeliver]
  split
  · refine h.change hnone [] ?_ nofun rfl rfl rfl rfl rfl
    rw [List.perm_iff_count]
    intro other
    simp only [DeliverWorker.places, hstage, DeliverStage.held, List.count_append,
      DeliverWorker.restorePendingMessages, List.count_nil]
    omega
  · rename_i hmessage
    -- the error of the envelope drops the DELIVER with what was deferred
    obtain ⟨harrival, hheld⟩ := hdecodable (by rw [hmessage]; rfl)
    rw [DeliverStage.HoldsNoneTaken, hstage] at hheld
    refine h.change hnone ([arrival] ++ deferred) ?_ (fun found hfound => ?_) rfl rfl rfl rfl rfl
    · rw [List.perm_iff_count]
      intro other
      simp only [DeliverWorker.places, hstage, DeliverStage.held, List.count_append, List.count_nil]
      omega
    · rcases List.mem_append.mp hfound with hhand | hdeferred
      · rw [List.mem_singleton.mp hhand]
        exact harrival
      · exact hheld found hdeferred
  · refine h.handle (some _) (fun deliver habsurd => absurd habsurd (hnone deliver)) ?_ rfl rfl rfl
      rfl rfl
    rw [List.perm_iff_count]
    intro other
    simp only [DeliverWorker.places, hstage, DeliverStage.held, List.count_append,
      DeliverWorker.emit, DeliverWorker.restorePendingMessages, List.count_nil]
    omega
  · refine h.change hnone [] ?_ nofun rfl rfl rfl rfl rfl
    rw [List.perm_iff_count]
    intro other
    simp only [DeliverWorker.places, hstage, DeliverStage.held, List.count_append, List.count_cons,
      List.count_nil]
    omega
  · refine h.change hnone [] ?_ nofun rfl rfl rfl rfl rfl
    rw [List.perm_iff_count]
    intro other
    simp only [DeliverWorker.places, hstage, DeliverStage.held, List.count_append, List.count_nil]
    omega

/-- A round of `wait_for_send_acceptance`, likewise. -/
theorem Accounted.waitForSendAcceptance (h : Accounted [arrival] s)
    (hstage : s.stage = .awaitingAcceptance deferred) :
    Accounted [] (s.waitForSendAcceptance deferred arrival) := by
  have hnone : s.stage.NoWrittenAck := by
    intro deliver
    rw [hstage]
    nofun
  have hwritten {P : Arrival → Prop} :
      ∀ deliver, s.stage = .acknowledging deliver true → P deliver :=
    fun deliver habsurd => absurd habsurd (hnone deliver)
  -- a report restores what was deferred before it
  have hrestored {t : DeliverWorker} (hstream : t.stream = s.stream)
      (hpending : t.pendingMessages = deferred ++ s.pendingMessages) (hheld : t.stage.held = []) :
      ([arrival] ++ t.places []).Perm (s.places [arrival]) := by
    rw [DeliverWorker.places, DeliverWorker.places, hstage, hstream, hpending, hheld,
      DeliverStage.held]
    simp only [List.append_nil, List.nil_append, List.append_assoc]
    exact List.Perm.refl _
  rw [DeliverWorker.waitForSendAcceptance]
  split
  · dsimp only
    split
    · exact h.handle (some _) hwritten (hrestored rfl rfl rfl) rfl rfl rfl rfl rfl
    · exact h.handle none hwritten (hrestored rfl rfl rfl) rfl rfl (List.append_nil _).symm rfl rfl
    · exact h.handle none hwritten (hrestored rfl rfl rfl) rfl rfl (List.append_nil _).symm rfl rfl
  · refine h.change hnone [] ?_ nofun rfl rfl rfl rfl rfl
    rw [List.perm_iff_count]
    intro other
    simp only [DeliverWorker.places, hstage, DeliverStage.held, List.count_append, List.count_cons,
      List.count_nil]
    omega
  · refine h.change hnone [] ?_ nofun rfl rfl rfl rfl rfl
    rw [List.perm_iff_count]
    intro other
    simp only [DeliverWorker.places, hstage, DeliverStage.held, List.count_append, List.count_nil]
    omega

/-- A new message of the relay is at the end of the stream. -/
theorem Accounted.receive (h : Accounted [] s) (message : RelayMessage) :
    Accounted []
      { s with
        stream := s.stream ++ [⟨s.arrivals, message, false⟩]
        arrivals := s.arrivals + 1 } := by
  have htally (seq : ℕ) : DeliverWorker.tally
      { s with
        stream := s.stream ++ [⟨s.arrivals, message, false⟩]
        arrivals := s.arrivals + 1 } [] seq = s.tally [] seq + [s.arrivals].count seq := by
    simp only [DeliverWorker.tally, DeliverWorker.places, List.map_append, List.count_append,
      List.map_cons, List.map_nil]
    omega
  have hnew : s.tally [] s.arrivals = 0 := by
    rcases Nat.eq_zero_or_pos (s.tally [] s.arrivals) with hzero | hpos
    · exact hzero
    · exact absurd (h.arrived _ hpos) (Nat.lt_irrefl _)
  refine ⟨fun seq => ?_, fun seq hpos => ?_, h.events, h.acked, fun seq hseq => ?_⟩
  · rw [htally, List.count_singleton]
    have honce := h.once seq
    split
    · rename_i hsame
      obtain rfl := beq_iff_eq.mp hsame
      omega
    · exact honce
  · rw [htally, List.count_singleton] at hpos
    show seq < s.arrivals + 1
    split at hpos
    · rename_i hsame
      rw [← beq_iff_eq.mp hsame]
      exact Nat.lt_succ_self _
    · exact Nat.lt_succ_of_lt (h.arrived seq hpos)
  · rcases h.taken seq hseq with hdone | ⟨found, hfound, hkept⟩
    · exact Or.inl hdone
    · refine Or.inr ⟨found, ?_, hkept⟩
      simp only [DeliverWorker.places, List.nil_append, List.mem_append] at hfound ⊢
      tauto

/-- The PING is answered. -/
theorem Accounted.pongSent {sending : Bool} (h : Accounted [] s)
    (hstage : s.stage = .ponging arrival deferred sending) :
    Accounted [] { s with
      stage := if sending then .awaitingAcceptance deferred else .reading deferred
      handled := s.handled ++ [arrival.seq] } := by
  have hheld : DeliverStage.held
      (if sending then .awaitingAcceptance deferred else .reading deferred) = deferred := by
    cases sending <;> rfl
  refine h.handle none (fun deliver habsurd => ?_) ?_ rfl rfl (List.append_nil _).symm rfl rfl
  · rw [hstage] at habsurd
    cases habsurd
  · rw [DeliverWorker.places, DeliverWorker.places, hstage, hheld, DeliverStage.held]
    exact List.Perm.refl _

/-- The ACK goes to the socket: the DELIVER is about to be handed over. -/
theorem Accounted.ackWritten (h : Accounted [] s)
    (hstage : s.stage = .acknowledging arrival false) :
    Accounted []
      { s with stage := .acknowledging arrival true, acked := s.acked ++ [arrival] } := by
  have hnone : s.stage.NoWrittenAck := by
    intro deliver
    rw [hstage]
    nofun
  have hplaces : DeliverWorker.places
      { s with stage := .acknowledging arrival true, acked := s.acked ++ [arrival] } [] =
        s.places [] := by
    rw [DeliverWorker.places, DeliverWorker.places, hstage]
    rfl
  refine h.move (fun seq => ?_) rfl h.events (fun deliver hdeliver => ?_) fun seq hseq => ?_
  · rw [DeliverWorker.tally, hplaces]
    exact Nat.le_refl _
  · rcases List.mem_append.mp hdeliver with hbefore | hnew
    · exact Or.inl ((h.emitted hnone deliver hbefore).append (List.append_nil _).symm)
    · rw [List.mem_singleton.mp hnew]
      exact Or.inr rfl
  · rw [hplaces]
    exact h.taken seq hseq

/-- **The ACK is flushed**: the DELIVER is handed over. -/
theorem Accounted.ackFlushed {messageId sender : String} {envelopeBytes : List UInt8}
    (h : Accounted [] s) (hstage : s.stage = .acknowledging arrival true)
    (hmessage : arrival.message = .deliver messageId sender (.ok envelopeBytes))
    (hsender : reportStatus? sender = none) :
    Accounted [] { s.emit arrival (receivedEvent messageId sender envelopeBytes) with
      stage := .reading [] } := by
  refine h.handle (some (receivedEvent messageId sender envelopeBytes)) (fun deliver hsame => ?_)
    ?_ rfl rfl rfl rfl rfl
  · obtain ⟨rfl, -⟩ := DeliverStage.acknowledging.inj (hstage.symm.trans hsame)
    refine ⟨messageId, sender, envelopeBytes, hmessage, List.mem_append_right _ ?_⟩
    rw [receivedEvent, hsender]
    exact List.mem_singleton_self _
  · rw [DeliverWorker.places, DeliverWorker.places, hstage]
    exact List.Perm.refl _

/-- A future is dropped, with nothing that matters. -/
theorem Accounted.dropped (h : Accounted [] s) {stage : DeliverStage} (hstage : stage.held = [])
    (hwritten : s.stage.NoWrittenAck) (hheld : s.stage.HoldsNoneTaken) :
    Accounted [] { s with stage := stage } := by
  refine h.change hwritten s.stage.held ?_ hheld rfl rfl rfl rfl rfl
  rw [DeliverWorker.places, DeliverWorker.places, hstage, List.perm_iff_count]
  intro other
  simp only [List.count_append, List.count_nil]
  omega

/-- The wait of a command fails: what it deferred is back in `pending_messages`. -/
theorem Accounted.waitFailed (h : Accounted [] s)
    (hstage : s.stage = .awaitingAcceptance deferred) :
    Accounted [] { s.restorePendingMessages deferred with stage := .disconnected } := by
  refine h.change (fun deliver => ?_) [] ?_ nofun rfl rfl rfl rfl rfl
  · rw [hstage]
    nofun
  · rw [DeliverWorker.places, DeliverWorker.places, hstage]
    simp only [DeliverStage.held, DeliverWorker.restorePendingMessages, List.append_nil,
      List.nil_append, List.append_assoc]
    exact List.Perm.refl _

theorem Winner.held_stage (winner : Winner) : winner.stage.held = [] := by
  cases winner with
  | sendEnvelope sent => cases sent <;> rfl
  | ping sent => cases sent <;> rfl
  | maintenance => rfl
  | stop => rfl

/-- **The step.** -/
theorem Accounted.step {action : DeliverAction} (h : Accounted [] s)
    (hstep : CalmDeliverStep s action s') : Accounted [] s' := by
  obtain ⟨hstep, hcalm⟩ := hstep
  rw [DeliverStep] at hstep
  cases action with
  | relaySends message =>
    cases hstep
    exact h.receive message
  | read =>
    rw [DeliverWorker.step?] at hstep
    split at hstep
    · rename_i deferred arrival t hstage htake
      cases hstep
      obtain ⟨hhand, hsame⟩ := h.take htake
      refine hhand.nextDeliver (hsame.trans hstage) fun hundecodable => ?_
      rw [hsame]
      exact hcalm deferred arrival t hstage htake hundecodable
    · rename_i deferred arrival t hstage htake
      cases hstep
      obtain ⟨hhand, hsame⟩ := h.take htake
      exact hhand.waitForSendAcceptance (hsame.trans hstage)
    · cases hstep
  | pongSent =>
    rw [DeliverWorker.step?] at hstep
    split at hstep
    · rename_i ping deferred sending hstage
      cases hstep
      exact h.pongSent hstage
    · cases hstep
  | ackWritten =>
    rw [DeliverWorker.step?] at hstep
    split at hstep
    · rename_i deliver hstage
      cases hstep
      exact h.ackWritten hstage
    · cases hstep
  | ackFlushed =>
    rw [DeliverWorker.step?] at hstep
    split at hstep
    · rename_i deliver hstage
      split at hstep
      · rename_i messageId sender envelopeBytes hmessage
        cases hstep
        have hsender := hcalm deliver hstage
        rw [hmessage] at hsender
        exact h.ackFlushed hstage hmessage (Option.not_isSome_iff_eq_none.mp (by
          rw [RelayMessage.passesForReport] at hsender
          rw [hsender]
          exact Bool.false_ne_true))
      · cases hstep
    · cases hstep
  | cancelled winner =>
    rw [DeliverWorker.step?] at hstep
    split at hstep
    · cases hstep
      exact h.dropped winner.held_stage hcalm.1 hcalm.2
    · cases hstep
  | failed =>
    rw [DeliverWorker.step?] at hstep
    split at hstep
    · cases hstep
    · rename_i deferred hstage
      cases hstep
      exact h.waitFailed hstage
    · rename_i hwaiting
      cases hstep
      rcases hcalm with ⟨deferred, hstage⟩ | ⟨hwritten, hheld⟩
      · exact absurd hstage (hwaiting deferred)
      · exact h.dropped rfl hwritten hheld

end

/-! ### Runs -/

/-- The worker behind `connect_managed_session`, that may have set messages aside. -/
structure DeliverWorker.Starting (s : DeliverWorker) : Prop where
  stage : s.stage = .reading []
  nodup : ((s.pendingMessages ++ s.stream).map (·.seq)).Nodup
  arrived : ∀ arrival ∈ s.pendingMessages ++ s.stream, arrival.seq < s.arrivals
  taken : s.taken = []
  acked : s.acked = []
  handled : s.handled = []
  events : s.events = []

variable {s : DeliverWorker}

theorem Accounted.of_starting (h : s.Starting) : Accounted [] s := by
  have hplaces : s.places [] = s.pendingMessages ++ s.stream := by
    rw [DeliverWorker.places, h.stage]
    rfl
  have htally (seq : ℕ) :
      s.tally [] seq = ((s.pendingMessages ++ s.stream).map (·.seq)).count seq := by
    rw [DeliverWorker.tally, hplaces, h.handled, List.count_nil, Nat.add_zero]
  refine ⟨fun seq => ?_, fun seq hpos => ?_, fun seq => ?_, ?_, ?_⟩
  · rw [htally]
    exact List.nodup_iff_count.mp h.nodup seq
  · rw [htally] at hpos
    obtain ⟨arrival, harrival, rfl⟩ := List.mem_map.mp (List.count_pos_iff.mp hpos)
    exact h.arrived arrival harrival
  · rw [h.events]
    exact Nat.zero_le _
  · rw [h.acked]
    exact nofun
  · rw [h.taken]
    exact nofun

/-- A DELIVER is handed over, and no other event is of its number. -/
def DeliverWorker.EmitsOnce (s : DeliverWorker) (deliver : Arrival) : Prop :=
  s.Emits deliver ∧ (s.events.map Prod.fst).count deliver.seq = 1

/-- What is handed over is handed over once. -/
theorem Accounted.emitsOnce {deliver : Arrival} (h : Accounted [] s) (hemits : s.Emits deliver) :
    s.EmitsOnce deliver := by
  refine ⟨hemits, Nat.le_antisymm ?_ ?_⟩
  · have honce := h.once deliver.seq
    rw [DeliverWorker.tally] at honce
    have hevents := h.events deliver.seq
    omega
  · obtain ⟨messageId, sender, envelopeBytes, -, hmem⟩ := hemits
    exact List.count_pos_iff.mpr (List.mem_map.mpr ⟨_, hmem, rfl⟩)

/-- **What is acknowledged is handed over.**  In a run of calm steps every acknowledged DELIVER has
become one event, or becomes one when its ACK is flushed, which precedes the end of the connection;
and what has been taken from `pending_messages` is dealt with or still there. -/
theorem acked_handed_over {s t : DeliverWorker} {actions : List DeliverAction} (hs : s.Starting)
    (h : Trace CalmDeliverStep s actions t) :
    (∀ deliver ∈ t.acked, t.EmitsOnce deliver ∨ t.stage = .acknowledging deliver true) ∧
      (t.stage = .disconnected → ∀ deliver ∈ t.acked, t.EmitsOnce deliver) ∧
      ∀ seq ∈ t.taken, seq ∈ t.handled ∨ ∃ arrival ∈ t.places [], arrival.seq = seq := by
  have haccounted : Accounted [] t :=
    h.invariant (fun _ s => Accounted [] s) (Accounted.of_starting hs)
      fun _ haccounted hstep => haccounted.step hstep
  refine ⟨fun deliver hdeliver => ?_, fun hstage deliver hdeliver => ?_, fun seq hseq => ?_⟩
  · exact (haccounted.acked deliver hdeliver).imp haccounted.emitsOnce id
  · refine haccounted.emitsOnce (haccounted.emitted ?_ deliver hdeliver)
    intro deliver
    rw [hstage]
    nofun
  · refine (haccounted.taken seq hseq).imp id ?_
    rintro ⟨arrival, harrival, -, hsame⟩
    exact ⟨arrival, harrival, hsame⟩

/-! ### An envelope -/

def idleWorker : DeliverWorker where
  stream := []
  pendingMessages := []
  stage := .reading []
  arrivals := 0
  taken := []
  acked := []
  handled := []
  events := []

theorem idleWorker_starting : idleWorker.Starting where
  stage := rfl
  nodup := List.nodup_nil
  arrived := nofun
  taken := rfl
  acked := rfl
  handled := rfl
  events := rfl

/-- An envelope of a sender. -/
def envelopeFrom (sender : String) : RelayMessage := .deliver "m1" sender (.ok [1])

def deliveredArrival : Arrival := ⟨0, envelopeFrom "did:agent:alice", false⟩

/-- The envelope is handed over. -/
def handingWorker : DeliverWorker :=
  { idleWorker with
    arrivals := 1
    acked := [deliveredArrival]
    handled := [0]
    events := [(0, .envelopeReceived "m1" "did:agent:alice" [1])] }

theorem acked_handed_over_sample :
    Trace CalmDeliverStep idleWorker
        [.relaySends (envelopeFrom "did:agent:alice"), .read, .ackWritten, .ackFlushed]
        handingWorker ∧
      (∀ deliver ∈ handingWorker.acked,
        handingWorker.EmitsOnce deliver ∨ handingWorker.stage = .acknowledging deliver true) ∧
      (handingWorker.stage = .disconnected →
        ∀ deliver ∈ handingWorker.acked, handingWorker.EmitsOnce deliver) ∧
      ∀ seq ∈ handingWorker.taken,
        seq ∈ handingWorker.handled ∨ ∃ arrival ∈ handingWorker.places [], arrival.seq = seq := by
  have hsent : CalmDeliverStep idleWorker (.relaySends (envelopeFrom "did:agent:alice"))
      { idleWorker with stream := [deliveredArrival], arrivals := 1 } := ⟨rfl, trivial⟩
  have hread : CalmDeliverStep { idleWorker with stream := [deliveredArrival], arrivals := 1 }
      .read { idleWorker with stage := .acknowledging deliveredArrival false, arrivals := 1 } := by
    refine ⟨rfl, fun deferred arrival t _ htake hundecodable => ?_⟩
    cases htake
    cases hundecodable
  have hwritten : CalmDeliverStep
      { idleWorker with stage := .acknowledging deliveredArrival false, arrivals := 1 } .ackWritten
      { idleWorker with
        stage := .acknowledging deliveredArrival true
        arrivals := 1
        acked := [deliveredArrival] } := ⟨rfl, trivial⟩
  have hflushed : CalmDeliverStep
      { idleWorker with
        stage := .acknowledging deliveredArrival true
        arrivals := 1
        acked := [deliveredArrival] } .ackFlushed handingWorker := by
    refine ⟨?_, fun deliver hdeliver => ?_⟩
    · show DeliverWorker.step? _ _ = _
      decide +kernel
    · cases hdeliver
      decide +kernel
  have htrace := (((Trace.single hsent).snoc hread).snoc hwritten).snoc hflushed
  exact ⟨htrace, acked_handed_over idleWorker_starting htrace⟩

/-! ### Futures that are dropped -/

/-- A ping tick fails while the ACK of the envelope is flushed. -/
def droppedRun : List DeliverAction :=
  [.relaySends (envelopeFrom "did:agent:alice"), .read, .ackWritten, .cancelled (.ping false)]

def droppedWorker : DeliverWorker :=
  { idleWorker with stage := .disconnected, arrivals := 1, acked := [deliveredArrival] }

/-- A CARD arrives while a command waits; `next_deliver` takes it from `pending_messages`, and a
maintenance tick drops it. -/
def forgottenRun : List DeliverAction :=
  [.cancelled (.sendEnvelope true), .relaySends (.other "CARD"), .read,
    .relaySends (.deliveryReport ⟨"m1", .accepted⟩), .read, .read, .cancelled .maintenance]

def forgottenWorker : DeliverWorker :=
  { idleWorker with arrivals := 2, taken := [0], handled := [1] }

/-- The `from` of an envelope has the form of a report. -/
def disguisedRun : List DeliverAction :=
  [.relaySends (envelopeFrom "__delivery_report:delivered"), .read, .ackWritten, .ackFlushed,
    .cancelled .stop]

def disguisedArrival : Arrival := ⟨0, envelopeFrom "__delivery_report:delivered", false⟩

def disguisedWorker : DeliverWorker :=
  { idleWorker with
    stage := .disconnected
    arrivals := 1
    acked := [disguisedArrival]
    handled := [0]
    events := [(0, .deliveryReported ⟨"m1", .delivered⟩)] }

/-- **Acknowledged, and lost.**  A branch that wins while the ACK is flushed leaves an envelope that
the relay will not send again and that no event hands over; one that wins behind a deferred message
drops it; and an envelope whose `from` looks like a report becomes an event of another kind. -/
theorem acked_lost : idleWorker.Starting ∧
    (Trace DeliverStep idleWorker droppedRun droppedWorker ∧
      droppedWorker.stage = .disconnected ∧
      ¬ ∀ deliver ∈ droppedWorker.acked, droppedWorker.EmitsOnce deliver) ∧
    (Trace DeliverStep idleWorker forgottenRun forgottenWorker ∧
      ¬ ∀ seq ∈ forgottenWorker.taken, seq ∈ forgottenWorker.handled ∨
        ∃ arrival ∈ forgottenWorker.places [], arrival.seq = seq) ∧
    Trace DeliverStep idleWorker disguisedRun disguisedWorker ∧
      disguisedWorker.stage = .disconnected ∧
      ¬ ∀ deliver ∈ disguisedWorker.acked, disguisedWorker.EmitsOnce deliver := by
  refine ⟨idleWorker_starting, ⟨.of_foldlM rfl, rfl, fun hall => ?_⟩,
    ⟨.of_foldlM rfl, by decide⟩, .of_foldlM (by decide +kernel), rfl, fun hall => ?_⟩
  · exact absurd (hall deliveredArrival (List.mem_singleton_self _)).2 (by decide)
  · obtain ⟨⟨messageId, sender, envelopeBytes, -, hmem⟩, -⟩ :=
      hall disguisedArrival (List.mem_singleton_self _)
    cases List.mem_singleton.mp hmem

end QuadraA.RuntimeRs
