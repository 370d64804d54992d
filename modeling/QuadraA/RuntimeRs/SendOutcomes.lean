import QuadraA.RuntimeRs.RelayWorker
import QuadraA.Lib.Trace

/-!
# Send outcomes

Which report answers which command of the relay worker.

* `send_outcomes` — the commands get their own outcomes in every run in which no wait takes a report
  that a message has expired;
* `expired_answers_next` — a report of an earlier message ends the wait of a later one.
-/

namespace QuadraA.RuntimeRs

open QuadraA.Lib

/-! ### Messages in flight -/

/-- The outcome of a SEND that a message reports. -/
def RelayMessage.outcome? (message : RelayMessage) : Option DeliveryReport :=
  message.report?.filter (·.status.isOutcome)

def outcomes (messages : List RelayMessage) : List DeliveryReport :=
  messages.filterMap RelayMessage.outcome?

theorem outcomes_append (messages messages' : List RelayMessage) :
    outcomes (messages ++ messages') = outcomes messages ++ outcomes messages' :=
  List.filterMap_append

theorem outcomes_cons_none {message : RelayMessage} {messages : List RelayMessage}
    (h : message.outcome? = none) : outcomes (message :: messages) = outcomes messages :=
  List.filterMap_cons_none h

theorem outcomes_cons_some {message : RelayMessage} {messages : List RelayMessage}
    {report : DeliveryReport} (h : message.outcome? = some report) :
    outcomes (message :: messages) = report :: outcomes messages :=
  List.filterMap_cons_some h

theorem RelayMessage.outcome?_of_report? {message : RelayMessage} (h : message.report? = none) :
    message.outcome? = none := by
  rw [outcome?, h]
  rfl

/-- Messages without reports have no outcomes. -/
theorem outcomes_of_deferred {messages : List RelayMessage}
    (h : ∀ message ∈ messages, message.report? = none) : outcomes messages = [] :=
  List.filterMap_eq_nil_iff.mpr fun message hmessage =>
    RelayMessage.outcome?_of_report? (h message hmessage)

theorem RelayMessage.outcome?_of_unsolicited {message : RelayMessage}
    (h : message.unsolicited = true) : message.outcome? = none := by
  cases message with
  | deliveryReport report =>
    obtain ⟨messageId, status⟩ := report
    cases status <;> first | rfl | exact absurd h Bool.false_ne_true
  | _ => rfl

namespace RelaySession

variable {session session' : RelaySession} {message : RelayMessage}

/-- The next message is the first one in flight. -/
theorem flight_of_nextMessage (h : session.nextMessage = some (message, session')) :
    session.flight = message :: session'.flight := by
  obtain ⟨stream, pendingMessages⟩ := session
  cases pendingMessages with
  | cons first rest =>
    cases h
    rfl
  | nil =>
    cases stream with
    | cons first rest =>
      cases h
      rfl
    | nil => cases h

/-- A session with messages in flight has a next one. -/
theorem exists_nextMessage {messages : List RelayMessage}
    (h : session.flight = message :: messages) :
    ∃ session', session.nextMessage = some (message, session') ∧ session'.flight = messages := by
  obtain ⟨stream, pendingMessages⟩ := session
  cases pendingMessages with
  | cons first rest =>
    obtain ⟨rfl, rfl⟩ := List.cons.inj h
    exact ⟨_, rfl, rfl⟩
  | nil =>
    cases stream with
    | cons first rest =>
      obtain ⟨rfl, rfl⟩ := List.cons.inj h
      exact ⟨_, rfl, rfl⟩
    | nil => cases h

theorem flight_restorePendingMessages (session : RelaySession) (deferred : List RelayMessage) :
    (session.restorePendingMessages deferred).flight = deferred ++ session.flight :=
  List.append_assoc ..

theorem flight_receive (session : RelaySession) (message : RelayMessage) :
    (session.receive message).flight = session.flight ++ [message] :=
  (List.append_assoc ..).symm

end RelaySession

/-! ### The invariant -/

def WorkerPhase.deferred : WorkerPhase → List RelayMessage
  | .selecting deferred | .awaitingAcceptance deferred => deferred
  | .disconnected => []

/-- The commands that wait for their answer. -/
def WorkerPhase.waiting : WorkerPhase → ℕ
  | .awaitingAcceptance _ => 1
  | _ => 0

/-- A response is made of the outcome that the relay issued for its SEND, or it is the failure of
the connection that ended with it. -/
def RelayWorker.Answered (s : RelayWorker) (i : ℕ)
    (response : Except RelaySendError RelaySendOutcome) : Prop :=
  (∃ report, s.issued[i]? = some report ∧ acceptance report = some response) ∨
    (s.phase = .disconnected ∧ i + 1 = s.responses.length ∧
      ∃ error, response = .error (.fatal error))

/-- **The invariant of the worker.** -/
structure Answering (s : RelayWorker) : Prop where
  correct : ∀ message ∈ s.session.flight, ∀ report, message.report? = some report →
    report.status.isOutcome = true ∨ report.status.isLate = true
  deferred : ∀ message ∈ s.phase.deferred, message.report? = none
  flight : s.phase ≠ .disconnected →
    outcomes s.session.flight = s.issued.drop s.responses.length
  count : s.phase ≠ .disconnected → s.responses.length + s.phase.waiting = s.sends
  issued : s.issued.length ≤ s.sends
  outcome : ∀ report ∈ s.issued, report.status.isOutcome = true
  answered : ∀ i response, s.responses[i]? = some response → s.Answered i response

namespace Answering

variable {s : RelayWorker} {session : RelaySession} {message : RelayMessage}
  {deferred : List RelayMessage}

/-- An answer stays what it is while the connection lasts. -/
theorem kept (h : Answering s) (hopen : s.phase ≠ .disconnected) {i : ℕ}
    {response : Except RelaySendError RelaySendOutcome} (hi : s.responses[i]? = some response) :
    ∃ report, s.issued[i]? = some report ∧ acceptance report = some response := by
  rcases h.answered i response hi with hissued | ⟨hclosed, _⟩
  · exact hissued
  · exact absurd hclosed hopen

/-- The relay has answered the SENDs of the commands that have their answers. -/
theorem responses_le (h : Answering s) (hopen : s.phase ≠ .disconnected) :
    s.responses.length ≤ s.issued.length := by
  by_contra hlt
  obtain ⟨report, hreport, _⟩ := h.kept hopen
    (List.getElem?_eq_getElem (show s.issued.length < s.responses.length by omega))
  rw [List.getElem?_eq_none (Nat.le_refl _)] at hreport
  cases hreport

/-- **Moving on.**  The worker keeps the invariant when it neither answers nor takes a command, and
loses no outcome. -/
theorem moved (h : Answering s) (hopen : s.phase ≠ .disconnected) (session : RelaySession)
    (phase : WorkerPhase) (events : List RelayWorkerEvent)
    (hphase : phase.waiting = s.phase.waiting)
    (hmessages : ∀ message ∈ session.flight, message ∈ s.phase.deferred ∨
      message ∈ s.session.flight)
    (hdeferred : ∀ message ∈ phase.deferred, message.report? = none)
    (houtcomes : outcomes session.flight = outcomes s.session.flight) :
    Answering { s with session := session, phase := phase, events := events } := by
  refine ⟨fun message hmessage report hreport => ?_, hdeferred, fun _ => ?_, fun _ => ?_,
    h.issued, h.outcome, fun i response hi => Or.inl (h.kept hopen hi)⟩
  · rcases hmessages message hmessage with hbefore | hbefore
    · rw [h.deferred message hbefore] at hreport
      cases hreport
    · exact h.correct message hbefore report hreport
  · exact houtcomes.trans (h.flight hopen)
  · show s.responses.length + phase.waiting = s.sends
    rw [hphase]
    exact h.count hopen

/-- What is deferred returns to the front. -/
theorem restored (h : Answering s) (hopen : s.phase ≠ .disconnected)
    (hflight : s.session.flight = message :: session.flight) (hnone : message.outcome? = none)
    (phase : WorkerPhase) (events : List RelayWorkerEvent)
    (hphase : phase.waiting = s.phase.waiting) (hempty : phase.deferred = []) :
    Answering { s with
      session := session.restorePendingMessages s.phase.deferred
      phase := phase
      events := events } := by
  refine h.moved hopen _ phase _ hphase (fun message' hmessage => ?_) ?_ ?_
  · rw [RelaySession.flight_restorePendingMessages] at hmessage
    rcases List.mem_append.mp hmessage with hdeferred | hrest
    · exact Or.inl hdeferred
    · exact Or.inr (hflight ▸ List.mem_cons_of_mem _ hrest)
  · rw [hempty]
    exact fun _ => nofun
  · rw [RelaySession.flight_restorePendingMessages, outcomes_append,
      outcomes_of_deferred h.deferred, hflight, outcomes_cons_none hnone]
    rfl

/-- A message is put aside, or dropped. -/
theorem passed (h : Answering s) (hopen : s.phase ≠ .disconnected)
    (hflight : s.session.flight = message :: session.flight) (hnone : message.report? = none)
    (phase : WorkerPhase) (hphase : phase.waiting = s.phase.waiting)
    (hdeferred : phase.deferred = s.phase.deferred ∨
      phase.deferred = s.phase.deferred ++ [message]) :
    Answering { s with session := session, phase := phase } := by
  refine h.moved hopen _ phase _ hphase (fun message' hmessage => ?_)
    (fun message' hmessage => ?_) ?_
  · exact Or.inr (hflight ▸ List.mem_cons_of_mem _ hmessage)
  · rcases hdeferred with hsame | hadded
    · exact h.deferred message' (hsame ▸ hmessage)
    · rw [hadded] at hmessage
      rcases List.mem_append.mp hmessage with hbefore | hlast
      · exact h.deferred message' hbefore
      · rw [List.mem_singleton.mp hlast]
        exact hnone
  · rw [hflight, outcomes_cons_none (RelayMessage.outcome?_of_report? hnone)]

/-- The connection ends. -/
theorem fail (h : Answering s) (hopen : s.phase ≠ .disconnected) (error : String)
    (hmessages : ∀ message ∈ session.flight, message ∈ s.session.flight) :
    Answering ({ s with session := session }.fail error) :=
  ⟨fun message hmessage => h.correct message (hmessages message hmessage),
    fun _ => nofun, fun hclosed => absurd rfl hclosed, fun hclosed => absurd rfl hclosed,
    h.issued, h.outcome, fun _ _ hi => Or.inl (h.kept hopen hi)⟩

/-- The command that waits is answered with a fatal error. -/
theorem failed (h : Answering s) (hopen : s.phase ≠ .disconnected) (error : String) :
    Answering (s.respond (.error (.fatal error))) := by
  refine ⟨h.correct, fun _ => nofun, fun hclosed => absurd rfl hclosed,
    fun hclosed => absurd rfl hclosed, h.issued, h.outcome, fun i response hi => ?_⟩
  change (s.responses ++ [.error (.fatal error)])[i]? = some response at hi
  rcases Nat.lt_or_ge i s.responses.length with hlt | hge
  · rw [List.getElem?_append_left hlt] at hi
    exact Or.inl (h.kept hopen hi)
  · rw [List.getElem?_append_right hge] at hi
    obtain ⟨hzero, rfl⟩ := List.getElem?_eq_some_iff.mp hi
    have hi : i = s.responses.length := by
      have : i - s.responses.length < 1 := hzero
      omega
    refine Or.inr ⟨rfl, ?_, error, ?_⟩
    · show i + 1 = (s.responses ++ [Except.error (RelaySendError.fatal error)]).length
      rw [hi, List.length_append]
      rfl
    · exact List.getElem_singleton hzero

/-! ### Reading -/

/-- While no command waits, no outcome is on its way. -/
theorem outcome?_of_selecting (h : Answering s) (hphase : s.phase = .selecting deferred)
    (hflight : s.session.flight = message :: session.flight) : message.outcome? = none := by
  have hopen : s.phase ≠ .disconnected := hphase ▸ nofun
  have hcount : s.responses.length + 0 = s.sends := by
    have hcount := h.count hopen
    rw [hphase] at hcount
    exact hcount
  have hnil : outcomes s.session.flight = [] := by
    rw [h.flight hopen]
    exact List.drop_eq_nil_of_le (by have := h.issued; omega)
  rw [hflight] at hnil
  exact List.filterMap_eq_nil_iff.mp hnil message List.mem_cons_self

/-- **A round of `next_deliver`** keeps the invariant. -/
theorem nextDeliver (h : Answering s) (hphase : s.phase = .selecting deferred)
    (hflight : s.session.flight = message :: session.flight) :
    Answering ({ s with session := session }.nextDeliver deferred message) := by
  have hopen : s.phase ≠ .disconnected := hphase ▸ nofun
  have hnone : message.outcome? = none := h.outcome?_of_selecting hphase hflight
  have hdeferred : s.phase.deferred = deferred := by rw [hphase]; rfl
  have hwaiting : s.phase.waiting = 0 := by rw [hphase]; rfl
  cases message with
  | deliver messageId sender envelope =>
    cases envelope with
    | ok envelopeBytes =>
      have hrestored := h.restored hopen hflight hnone (.selecting [])
        (s.events ++ [receivedEvent messageId sender envelopeBytes]) hwaiting.symm rfl
      rw [hdeferred] at hrestored
      exact hrestored
    | error error => exact h.fail hopen error fun _ hmem => hflight ▸ List.mem_cons_of_mem _ hmem
  | deliveryReport report =>
    have hrestored := h.restored hopen hflight hnone (.selecting [])
      (s.events ++ [.deliveryReported report]) hwaiting.symm rfl
    rw [hdeferred] at hrestored
    exact hrestored
  | ping =>
    exact h.passed hopen hflight rfl (.selecting deferred) hwaiting.symm (Or.inl hdeferred.symm)
  | other type =>
    exact h.passed hopen hflight rfl (.selecting (deferred ++ [.other type])) hwaiting.symm
      (Or.inr (by rw [hdeferred]; rfl))

/-- **The outcome arrives.**  It is the one issued for the command that waits. -/
theorem responded (h : Answering s) (hphase : s.phase = .awaitingAcceptance deferred)
    {report : DeliveryReport}
    (hflight : s.session.flight = .deliveryReport report :: session.flight)
    (hreport : report.status.isOutcome = true)
    {response : Except RelaySendError RelaySendOutcome}
    (hresponse : acceptance report = some response) :
    Answering { s with
      session := session.restorePendingMessages deferred
      phase := .selecting []
      responses := s.responses ++ [response] } := by
  have hopen : s.phase ≠ .disconnected := hphase ▸ nofun
  have hdeferred : s.phase.deferred = deferred := by rw [hphase]; rfl
  have hwaiting : s.phase.waiting = 1 := by rw [hphase]; rfl
  have houtcome : (RelayMessage.deliveryReport report).outcome? = some report :=
    Option.filter_eq_some_iff.mpr ⟨rfl, hreport⟩
  have hdrop : report :: outcomes session.flight = s.issued.drop s.responses.length := by
    rw [← h.flight hopen, hflight, outcomes_cons_some houtcome]
  have hissued : s.issued[s.responses.length]? = some report := by
    rw [← List.head?_drop, ← hdrop]
    rfl
  have hlength : (s.responses ++ [response]).length = s.responses.length + 1 :=
    List.length_append
  refine ⟨fun message hmessage report' hreport' => ?_, fun _ => nofun, fun _ => ?_, fun _ => ?_,
    h.issued, h.outcome, fun i response' hi => Or.inl ?_⟩
  · rw [RelaySession.flight_restorePendingMessages] at hmessage
    rcases List.mem_append.mp hmessage with hbefore | hrest
    · rw [h.deferred message (hdeferred ▸ hbefore)] at hreport'
      cases hreport'
    · exact h.correct message (hflight ▸ List.mem_cons_of_mem _ hrest) report' hreport'
  · rw [RelaySession.flight_restorePendingMessages, outcomes_append,
      outcomes_of_deferred (hdeferred ▸ h.deferred), hlength, ← List.tail_drop, ← hdrop]
    rfl
  · have hcount := h.count hopen
    rw [hwaiting] at hcount
    rw [hlength]
    exact hcount
  · change (s.responses ++ [response])[i]? = some response' at hi
    rcases Nat.lt_trichotomy i s.responses.length with hlt | rfl | hgt
    · rw [List.getElem?_append_left hlt] at hi
      exact h.kept hopen hi
    · rw [List.getElem?_concat_length] at hi
      exact ⟨report, hissued, hresponse.trans hi⟩
    · rw [List.getElem?_eq_none (by omega)] at hi
      cases hi

/-- **A round of `wait_for_send_acceptance`** keeps the invariant if it does not take a report that
a message has expired. -/
theorem waitForSendAcceptance (h : Answering s)
    (hphase : s.phase = .awaitingAcceptance deferred)
    (hflight : s.session.flight = message :: session.flight)
    (hexpired : ∀ report, message = .deliveryReport report → report.status ≠ .expired) :
    Answering ({ s with session := session }.waitForSendAcceptance deferred message) := by
  have hopen : s.phase ≠ .disconnected := hphase ▸ nofun
  have hdeferred : s.phase.deferred = deferred := by rw [hphase]; rfl
  have hwaiting : s.phase.waiting = 1 := by rw [hphase]; rfl
  cases message with
  | deliver messageId sender envelope =>
    exact h.passed hopen hflight rfl
      (.awaitingAcceptance (deferred ++ [.deliver messageId sender envelope])) hwaiting.symm
      (Or.inr (by rw [hdeferred]; rfl))
  | deliveryReport report =>
    have hcorrect := h.correct _ (hflight ▸ List.mem_cons_self) report rfl
    have hnot := hexpired report rfl
    obtain ⟨messageId, status⟩ := report
    cases status with
    | accepted => exact h.responded hphase hflight rfl rfl
    | queueFull => exact h.responded hphase hflight rfl rfl
    | unknownRecipient => exact h.responded hphase hflight rfl rfl
    | delivered =>
      have hrestored := h.restored hopen hflight rfl (.awaitingAcceptance [])
        (s.events ++ [.deliveryReported ⟨messageId, .delivered⟩]) hwaiting.symm rfl
      rw [hdeferred] at hrestored
      exact hrestored
    | expired => exact absurd rfl hnot
    | other status => rcases hcorrect with hcorrect | hcorrect <;> cases hcorrect
  | ping =>
    exact h.passed hopen hflight rfl (.awaitingAcceptance deferred) hwaiting.symm
      (Or.inl hdeferred.symm)
  | other type =>
    exact h.passed hopen hflight rfl (.awaitingAcceptance (deferred ++ [.other type]))
      hwaiting.symm (Or.inr (by rw [hdeferred]; rfl))

/-! ### The relay -/

/-- The relay answers the next SEND. -/
theorem relayAnswers (h : Answering s) {report : DeliveryReport}
    (hlt : s.issued.length < s.sends) (hreport : report.status.isOutcome = true) :
    Answering { s with
      session := s.session.receive (.deliveryReport report)
      issued := s.issued ++ [report] } := by
  have hissued {i : ℕ} {report' : DeliveryReport} (hi : s.issued[i]? = some report') :
      (s.issued ++ [report])[i]? = some report' :=
    (List.getElem?_append_left (List.getElem?_eq_some_iff.mp hi).1).trans hi
  refine ⟨fun message hmessage report' hreport' => ?_, h.deferred, fun hopen => ?_, h.count, ?_,
    fun report' hmem => ?_, fun i response hi => ?_⟩
  · rw [RelaySession.flight_receive] at hmessage
    rcases List.mem_append.mp hmessage with hbefore | hlast
    · exact h.correct message hbefore report' hreport'
    · rw [List.mem_singleton.mp hlast] at hreport'
      cases hreport'
      exact Or.inl hreport
  · have hreported : (RelayMessage.deliveryReport report).outcome? = some report :=
      Option.filter_eq_some_iff.mpr ⟨rfl, hreport⟩
    rw [RelaySession.flight_receive, outcomes_append, h.flight hopen,
      outcomes_cons_some hreported, List.drop_append_of_le_length (h.responses_le hopen)]
    rfl
  · show (s.issued ++ [report]).length ≤ s.sends
    rw [List.length_append]
    exact hlt
  · rcases List.mem_append.mp hmem with hbefore | hlast
    · exact h.outcome report' hbefore
    · rw [List.mem_singleton.mp hlast]
      exact hreport
  · rcases h.answered i response hi with ⟨report', hbefore, haccept⟩ | hclosed
    · exact Or.inl ⟨report', hissued hbefore, haccept⟩
    · exact Or.inr hclosed

/-- The relay sends something else. -/
theorem relaySends (h : Answering s) (hmessage : message.unsolicited = true) :
    Answering { s with session := s.session.receive message } := by
  refine ⟨fun message' hmem report hreport => ?_, h.deferred, fun hopen => ?_, h.count, h.issued,
    h.outcome, fun i response hi => ?_⟩
  · rw [RelaySession.flight_receive] at hmem
    rcases List.mem_append.mp hmem with hbefore | hlast
    · exact h.correct message' hbefore report hreport
    · rw [List.mem_singleton.mp hlast] at hreport
      rw [RelayMessage.unsolicited, hreport] at hmessage
      exact Or.inr hmessage
  · rw [RelaySession.flight_receive, outcomes_append,
      outcomes_cons_none (RelayMessage.outcome?_of_unsolicited hmessage)]
    show outcomes s.session.flight ++ [] = _
    rw [List.append_nil]
    exact h.flight hopen
  · rcases h.answered i response hi with hissued | hclosed
    · exact Or.inl hissued
    · exact Or.inr hclosed

end Answering

/-! ### Runs -/

/-- Before the first command: what is on its way belongs to messages accepted earlier. -/
structure RelayWorker.Starting (s : RelayWorker) : Prop where
  phase : s.phase = .selecting []
  unsolicited : ∀ message ∈ s.session.flight, message.unsolicited = true
  sends : s.sends = 0
  issued : s.issued = []
  responses : s.responses = []

def WorkerStep (s : RelayWorker) (action : WorkerAction) (s' : RelayWorker) : Prop :=
  s.step? action = some s'

/-- A step that does not end a wait with the report that a message has expired. -/
def CarefulWorkerStep (s : RelayWorker) (action : WorkerAction) (s' : RelayWorker) : Prop :=
  WorkerStep s action s' ∧
    ∀ deferred report session, action = .read → s.phase = .awaitingAcceptance deferred →
      s.session.nextMessage = some (.deliveryReport report, session) → report.status ≠ .expired

theorem Answering.of_starting {s : RelayWorker} (h : s.Starting) : Answering s := by
  have hlength : s.issued.length = 0 := by rw [h.issued]; rfl
  refine ⟨fun message hmessage report hreport => ?_, ?_, fun _ => ?_, fun _ => ?_, ?_, ?_,
    fun i response hi => ?_⟩
  · have hunsolicited := h.unsolicited message hmessage
    rw [RelayMessage.unsolicited, hreport] at hunsolicited
    exact Or.inr hunsolicited
  · rw [h.phase]
    exact fun _ => nofun
  · rw [h.issued, List.drop_nil]
    exact List.filterMap_eq_nil_iff.mpr fun message hmessage =>
      RelayMessage.outcome?_of_unsolicited (h.unsolicited message hmessage)
  · rw [h.responses, h.phase, h.sends]
    rfl
  · rw [hlength]
    exact Nat.zero_le _
  · rw [h.issued]
    exact fun _ => nofun
  · rw [h.responses] at hi
    cases hi

/-- **Step.**  A careful step keeps the invariant. -/
theorem Answering.step {s s' : RelayWorker} {action : WorkerAction} (h : Answering s)
    (hstep : CarefulWorkerStep s action s') : Answering s' := by
  obtain ⟨hstep, hexpired⟩ := hstep
  unfold WorkerStep at hstep
  cases action with
  | sendEnvelope =>
    dsimp only [RelayWorker.step?] at hstep
    split at hstep
    · rename_i deferred hphase
      cases hstep
      have hopen : s.phase ≠ .disconnected := hphase ▸ nofun
      have hcount := h.count hopen
      rw [hphase] at hcount
      exact ⟨h.correct, fun _ => nofun, fun _ => h.flight hopen,
        fun _ => congrArg (· + 1) hcount, Nat.le_succ_of_le h.issued, h.outcome,
        fun i response hi => Or.inl (h.kept hopen hi)⟩
    · cases hstep
  | read =>
    dsimp only [RelayWorker.step?] at hstep
    split at hstep
    · rename_i deferred message session hphase hnext
      cases hstep
      exact h.nextDeliver hphase (RelaySession.flight_of_nextMessage hnext)
    · rename_i deferred message session hphase hnext
      cases hstep
      exact h.waitForSendAcceptance hphase (RelaySession.flight_of_nextMessage hnext)
        fun report hreport => hexpired deferred report session rfl hphase (hreport ▸ hnext)
    · cases hstep
  | interrupted =>
    dsimp only [RelayWorker.step?] at hstep
    split at hstep
    · rename_i deferred hphase
      cases hstep
      exact h.moved (hphase ▸ nofun) s.session (.selecting []) s.events (by rw [hphase]; rfl)
        (fun _ hmem => Or.inr hmem) (fun _ => nofun) rfl
    · cases hstep
  | ackCancelled =>
    dsimp only [RelayWorker.step?] at hstep
    split at hstep
    · rename_i deferred messageId sender envelope session hphase hnext
      cases hstep
      have hrestored := h.restored (hphase ▸ nofun) (RelaySession.flight_of_nextMessage hnext) rfl
        (.selecting []) s.events (by rw [hphase]; rfl) rfl
      rw [hphase] at hrestored
      exact hrestored
    · cases hstep
  | failed error =>
    dsimp only [RelayWorker.step?] at hstep
    split at hstep
    · rename_i deferred hphase
      cases hstep
      exact h.fail (hphase ▸ nofun) error fun _ hmem => hmem
    · rename_i deferred hphase
      cases hstep
      exact h.failed (hphase ▸ nofun) error
    · cases hstep
  | relayAnswers report =>
    dsimp only [RelayWorker.step?] at hstep
    split at hstep
    · rename_i hreport
      cases hstep
      exact h.relayAnswers hreport.1 hreport.2
    · cases hstep
  | relaySends message =>
    dsimp only [RelayWorker.step?] at hstep
    split at hstep
    · rename_i hmessage
      cases hstep
      exact h.relaySends hmessage
    · cases hstep

/-! ### Waits end -/

def reports (messages : List RelayMessage) : List DeliveryReport :=
  messages.filterMap RelayMessage.report?

/-- The first report that ends a wait. -/
def ending? (messages : List RelayMessage) : Option DeliveryReport :=
  (reports messages).find? fun report => (acceptance report).isSome

theorem reports_append (messages messages' : List RelayMessage) :
    reports (messages ++ messages') = reports messages ++ reports messages' :=
  List.filterMap_append

theorem reports_of_deferred {messages : List RelayMessage}
    (h : ∀ message ∈ messages, message.report? = none) : reports messages = [] :=
  List.filterMap_eq_nil_iff.mpr h

/-- A read of a message that is no report of an expired message is careful. -/
theorem WorkerStep.careful {s s' : RelayWorker} {message : RelayMessage} {session : RelaySession}
    (h : WorkerStep s .read s') (hnext : s.session.nextMessage = some (message, session))
    (hexpired : ∀ report, message = .deliveryReport report → report.status ≠ .expired) :
    CarefulWorkerStep s .read s' := by
  refine ⟨h, fun _ report _ _ _ hreport => hexpired report ?_⟩
  rw [hnext] at hreport
  exact congrArg Prod.fst (Option.some.inj hreport)

/-- A read of a wait, as a step. -/
theorem RelayWorker.read_of_awaiting {s : RelayWorker} {deferred : List RelayMessage}
    {message : RelayMessage} {session : RelaySession}
    (hphase : s.phase = .awaitingAcceptance deferred)
    (hnext : s.session.nextMessage = some (message, session)) :
    WorkerStep s .read ({ s with session := session }.waitForSendAcceptance deferred message) := by
  show RelayWorker.step? s .read = _
  dsimp only [RelayWorker.step?]
  rw [hphase, hnext]

/-- A message that is no report is put aside, or is a ping. -/
theorem RelayWorker.waitForSendAcceptance_of_report? {s : RelayWorker}
    {deferred : List RelayMessage} {message : RelayMessage} (hmessage : message.report? = none) :
    ∃ deferred', s.waitForSendAcceptance deferred message =
        { s with phase := .awaitingAcceptance deferred' } ∧
      ∀ other ∈ deferred', other ∈ deferred ∨ other = message := by
  have hadded : ∀ other ∈ deferred ++ [message], other ∈ deferred ∨ other = message :=
    fun other hother => (List.mem_append.mp hother).imp id List.mem_singleton.mp
  cases message with
  | deliveryReport report => cases hmessage
  | ping => exact ⟨deferred, rfl, fun _ => Or.inl⟩
  | deliver messageId sender envelope => exact ⟨_, rfl, hadded⟩
  | other type => exact ⟨_, rfl, hadded⟩

/-- A report that ends a wait answers the command. -/
theorem RelayWorker.responses_waitForSendAcceptance {s : RelayWorker}
    {deferred : List RelayMessage} {report : DeliveryReport}
    {response : Except RelaySendError RelaySendOutcome} (h : acceptance report = some response) :
    (s.waitForSendAcceptance deferred (.deliveryReport report)).responses =
      s.responses ++ [response] := by
  dsimp only [waitForSendAcceptance]
  rw [h]
  dsimp only [respond]
  split <;> rfl

/-- Another report becomes an event. -/
theorem RelayWorker.waitForSendAcceptance_of_acceptance {s : RelayWorker}
    {deferred : List RelayMessage} {report : DeliveryReport} (h : acceptance report = none) :
    s.waitForSendAcceptance deferred (.deliveryReport report) =
      { s with
        session := s.session.restorePendingMessages deferred
        phase := .awaitingAcceptance []
        events := s.events ++ [.deliveryReported report] } := by
  dsimp only [waitForSendAcceptance]
  rw [h]
  rfl

/-- A worker that waits reads up to the next report. -/
theorem reads_to_report (messages : List RelayMessage) :
    ∀ (s : RelayWorker) (deferred : List RelayMessage) (report : DeliveryReport)
      (rest : List DeliveryReport), s.phase = .awaitingAcceptance deferred →
      (∀ message ∈ deferred, message.report? = none) → s.session.flight = messages →
      reports messages = report :: rest →
      ∃ n u deferred' session, Trace CarefulWorkerStep s (List.replicate n .read) u ∧
        u.phase = .awaitingAcceptance deferred' ∧
        (∀ message ∈ deferred', message.report? = none) ∧
        u.session.nextMessage = some (.deliveryReport report, session) ∧
        reports session.flight = rest ∧ u.responses = s.responses := by
  -- by induction on what is in flight: each message before the report takes one read
  induction messages with
  | nil => intro s deferred report rest _ _ _ hreports; cases hreports
  | cons message messages ih =>
    intro s deferred report rest hphase hdeferred hflight hreports
    obtain ⟨session, hnext, hrest⟩ := RelaySession.exists_nextMessage hflight
    cases hmessage : message.report? with
    | some first =>
      have hhead : reports (message :: messages) = first :: reports messages :=
        List.filterMap_cons_some hmessage
      rw [hhead] at hreports
      obtain ⟨rfl, rfl⟩ := List.cons.inj hreports
      obtain rfl : message = .deliveryReport first := by
        cases message with
        | deliveryReport report =>
          exact congrArg RelayMessage.deliveryReport (Option.some.inj hmessage)
        | _ => cases hmessage
      exact ⟨0, s, deferred, session, .nil, hphase, hdeferred, hnext, by rw [hrest], rfl⟩
    | none =>
      have htail : reports (message :: messages) = reports messages :=
        List.filterMap_cons_none hmessage
      rw [htail] at hreports
      obtain ⟨deferred', hread, hkept⟩ :=
        @RelayWorker.waitForSendAcceptance_of_report? { s with session := session } deferred _
          hmessage
      have hstep := RelayWorker.read_of_awaiting hphase hnext
      rw [hread] at hstep
      obtain ⟨n, u, hu⟩ := ih { s with session := session, phase := .awaitingAcceptance deferred' }
        deferred' report rest rfl (fun other hother => by
          rcases hkept other hother with hbefore | rfl
          · exact hdeferred other hbefore
          · exact hmessage) hrest hreports
      obtain ⟨deferred'', session', htrace, hu⟩ := hu
      refine ⟨n + 1, u, deferred'', session', ?_, hu⟩
      refine (Trace.single (hstep.careful hnext fun report hreport => ?_)).append htrace
      rw [hreport] at hmessage
      cases hmessage

/-- **Waits end.**  A worker that waits takes the first report that ends its wait, and no report of
an expired message before it. -/
theorem waiting_answered (pending : List DeliveryReport) :
    ∀ (s : RelayWorker) (deferred : List RelayMessage) (report : DeliveryReport)
      (response : Except RelaySendError RelaySendOutcome),
      s.phase = .awaitingAcceptance deferred →
      (∀ message ∈ deferred, message.report? = none) → reports s.session.flight = pending →
      ending? s.session.flight = some report → acceptance report = some response →
      report.status ≠ .expired →
      ∃ n u, Trace CarefulWorkerStep s (List.replicate n .read) u ∧
        u.responses = s.responses ++ [response] := by
  -- by induction on the reports in flight: one that ends no wait is taken as an event
  induction pending with
  | nil =>
    intro s deferred report response _ _ hreports hending
    rw [ending?, hreports] at hending
    cases hending
  | cons first pending ih =>
    intro s deferred report response hphase hdeferred hreports hending hresponse hexpired
    rw [ending?, hreports] at hending
    obtain ⟨n, u, deferred', session, htrace, hu, hnone, hnext, hrest, hsame⟩ :=
      reads_to_report _ s deferred first pending hphase hdeferred rfl hreports
    have hstep := RelayWorker.read_of_awaiting hu hnext
    cases hfirst : acceptance first with
    | some response' =>
      rw [List.find?_cons_of_pos (by rw [hfirst]; rfl)] at hending
      obtain rfl := Option.some.inj hending
      have hcareful := hstep.careful hnext fun report hreport => by
        cases hreport
        exact hexpired
      refine ⟨n + 1, _, List.replicate_succ' ▸ htrace.snoc hcareful, ?_⟩
      rw [← hsame]
      exact RelayWorker.responses_waitForSendAcceptance hresponse
    | none =>
      rw [List.find?_cons_of_neg (by rw [hfirst]; nofun)] at hending
      rw [RelayWorker.waitForSendAcceptance_of_acceptance hfirst] at hstep
      have hreports' : reports (session.restorePendingMessages deferred').flight = pending := by
        rw [RelaySession.flight_restorePendingMessages, reports_append, reports_of_deferred hnone]
        exact hrest
      obtain ⟨m, v, hreads, hv⟩ := ih
        { u with
          session := session.restorePendingMessages deferred'
          phase := .awaitingAcceptance []
          events := u.events ++ [.deliveryReported first] }
        [] report response rfl (fun _ => nofun) hreports'
        (by rw [ending?, hreports']; exact hending) hresponse hexpired
      have hcareful := hstep.careful hnext fun report hreport hstatus => by
        cases hreport
        rw [acceptance, hstatus] at hfirst
        cases hfirst
      refine ⟨n + (1 + m), v, ?_, hv.trans (by rw [hsame])⟩
      rw [List.replicate_add, List.replicate_add]
      exact htrace.append ((Trace.single hcareful).append hreads)

/-- An outcome ends a wait. -/
theorem exists_acceptance {report : DeliveryReport} (h : report.status.isOutcome = true) :
    ∃ response, acceptance report = some response := by
  obtain ⟨messageId, status⟩ := report
  cases status <;> first | exact ⟨_, rfl⟩ | exact absurd h Bool.false_ne_true

/-- Once the relay has answered, the first report that ends the wait is that answer, if it is none
of an expired message. -/
theorem Answering.exists_ending {s : RelayWorker} {deferred : List RelayMessage}
    (h : Answering s) (hphase : s.phase = .awaitingAcceptance deferred)
    (hissued : s.issued.length = s.sends)
    (hexpired : ∀ report, ending? s.session.flight = some report → report.status ≠ .expired) :
    ∃ report, s.issued[s.responses.length]? = some report ∧
      ∃ response, acceptance report = some response ∧ ending? s.session.flight = some report := by
  have hopen : s.phase ≠ .disconnected := hphase ▸ nofun
  have hcount := h.count hopen
  rw [hphase] at hcount
  have hlt : s.responses.length < s.issued.length := by
    rw [hissued, ← hcount]
    exact Nat.lt_succ_self _
  have hlast : s.responses.length + 1 = s.issued.length := hcount.trans hissued.symm
  have houtcomes : outcomes s.session.flight = [s.issued[s.responses.length]] := by
    rw [h.flight hopen, List.drop_eq_getElem_cons hlt, hlast, List.drop_length]
  have hissued : s.issued[s.responses.length]? = some s.issued[s.responses.length] :=
    List.getElem?_eq_getElem hlt
  obtain ⟨response, hresponse⟩ :=
    exists_acceptance (h.outcome s.issued[s.responses.length] (List.getElem_mem hlt))
  -- the outcome is among the reports, so some report ends the wait
  have hmem : s.issued[s.responses.length] ∈ reports s.session.flight := by
    obtain ⟨message, hmessage, houtcome⟩ :=
      List.mem_filterMap.mp (houtcomes ▸ List.mem_singleton_self _ :
        s.issued[s.responses.length] ∈ outcomes s.session.flight)
    exact List.mem_filterMap.mpr ⟨message, hmessage, (Option.filter_eq_some_iff.mp houtcome).1⟩
  obtain ⟨report, hending⟩ : ∃ report, ending? s.session.flight = some report :=
    Option.isSome_iff_exists.mp
      (List.find?_isSome.mpr ⟨_, hmem, by rw [hresponse]; rfl⟩)
  -- and it is an outcome, of which there is one only
  obtain ⟨message, hmessage, hreport⟩ :=
    List.mem_filterMap.mp (List.mem_of_find?_eq_some hending)
  have haccepted : (acceptance report).isSome = true :=
    @List.find?_some _ (fun report => (acceptance report).isSome) _ _ hending
  have houtcome : report.status.isOutcome = true := by
    rcases h.correct message hmessage report hreport with houtcome | hlate
    · exact houtcome
    · have hnot := hexpired report hending
      obtain ⟨messageId, status⟩ := report
      cases status with
      | delivered => cases haccepted
      | expired => exact absurd rfl hnot
      | _ => cases hlate
  have hsame : report ∈ outcomes s.session.flight :=
    List.mem_filterMap.mpr ⟨message, hmessage, Option.filter_eq_some_iff.mpr ⟨hreport, houtcome⟩⟩
  rw [houtcomes] at hsame
  have hsame : report = s.issued[s.responses.length] := List.mem_singleton.mp hsame
  exact ⟨_, hissued, response, hresponse, hending.trans (congrArg some hsame)⟩

/-! ### Send outcomes -/

/-- **Commands get the outcomes of their own SENDs** in every run in which no wait takes a report
that a message has expired: each answer was made of the report that the relay issued for that SEND,
up to the failure of a command with which the connection ended; every command that does not wait is
answered; and one that waits, once the relay has answered its SEND, is answered so by reading on. -/
theorem send_outcomes {s t : RelayWorker} {actions : List WorkerAction} (hs : s.Starting)
    (h : Trace CarefulWorkerStep s actions t) :
    (∀ i response, t.responses[i]? = some response → t.Answered i response) ∧
    (∀ deferred, t.phase = .selecting deferred → t.responses.length = t.sends) ∧
    ∀ deferred, t.phase = .awaitingAcceptance deferred → t.issued.length = t.sends →
      (∀ report, ending? t.session.flight = some report → report.status ≠ .expired) →
      ∃ n u report response, Trace CarefulWorkerStep t (List.replicate n .read) u ∧
        t.issued[t.responses.length]? = some report ∧ acceptance report = some response ∧
        u.responses = t.responses ++ [response] := by
  have hanswering : Answering t :=
    h.invariant (fun _ => Answering) (.of_starting hs) fun _ hbefore hstep => hbefore.step hstep
  refine ⟨hanswering.answered, fun deferred hphase => ?_,
    fun deferred hphase hissued hexpired => ?_⟩
  · have hcount := hanswering.count (hphase ▸ nofun)
    rw [hphase] at hcount
    exact hcount
  · obtain ⟨report, hreport, response, hresponse, hending⟩ :=
      hanswering.exists_ending hphase hissued hexpired
    have hdeferred := hanswering.deferred
    rw [hphase] at hdeferred
    obtain ⟨n, u, hreads, hu⟩ := waiting_answered _ t deferred report response hphase hdeferred rfl
      hending hresponse (hexpired report hending)
    exact ⟨n, u, report, response, hreads, hreport, hresponse, hu⟩

/-- A connection without traffic. -/
def freshWorker : RelayWorker := ⟨⟨[], []⟩, .selecting [], 0, [], [], []⟩

theorem freshWorker_starting : freshWorker.Starting :=
  ⟨rfl, fun _ => nofun, rfl, rfl, rfl⟩

/-- The worker that waits for its first message to be accepted. -/
def acceptingWorker : RelayWorker :=
  ⟨⟨[.deliveryReport ⟨"m1", .accepted⟩], []⟩, .awaitingAcceptance [], 1,
    [⟨"m1", .accepted⟩], [], []⟩

def acceptedWorker : RelayWorker :=
  ⟨⟨[], []⟩, .selecting [], 1, [⟨"m1", .accepted⟩], [.ok ⟨"m1", .accepted⟩], []⟩

theorem send_outcomes_sample : freshWorker.Starting ∧
    Trace CarefulWorkerStep freshWorker
      [.sendEnvelope, .relayAnswers ⟨"m1", .accepted⟩, .read] acceptedWorker ∧
    ∀ i response, acceptedWorker.responses[i]? = some response →
      acceptedWorker.Answered i response := by
  have hsent : CarefulWorkerStep freshWorker .sendEnvelope
      { freshWorker with phase := .awaitingAcceptance [], sends := 1 } :=
    ⟨rfl, fun _ _ _ => nofun⟩
  have hanswered : CarefulWorkerStep
      { freshWorker with phase := .awaitingAcceptance [], sends := 1 }
      (.relayAnswers ⟨"m1", .accepted⟩) acceptingWorker :=
    ⟨rfl, fun _ _ _ => nofun⟩
  have hread : CarefulWorkerStep acceptingWorker .read acceptedWorker :=
    WorkerStep.careful rfl rfl fun report hreport => by
      cases hreport
      exact nofun
  have htrace := ((Trace.single hsent).snoc hanswered).snoc hread
  exact ⟨freshWorker_starting, htrace, (send_outcomes freshWorker_starting htrace).1⟩

/-! ### Late reports -/

/-- A list of actions, carried out. -/
def RelayWorker.run? (s : RelayWorker) (actions : List WorkerAction) : Option RelayWorker :=
  actions.foldlM RelayWorker.step? s

theorem RelayWorker.trace_of_run {s t : RelayWorker} {actions : List WorkerAction}
    (h : s.run? actions = some t) : Trace WorkerStep s actions t :=
  Trace.of_foldlM h

/-- Three sends.  The relay reports that the first message has expired while the second SEND is
under way. -/
def expiringRun : List WorkerAction :=
  [.sendEnvelope, .relayAnswers ⟨"m1", .accepted⟩, .read,
    .relaySends (.deliveryReport ⟨"m1", .expired⟩),
    .sendEnvelope, .relayAnswers ⟨"m2", .accepted⟩, .read,
    .sendEnvelope, .relayAnswers ⟨"m3", .queueFull⟩, .read]

/-- The worker at the end of these sends. -/
def misledWorker : RelayWorker where
  session := ⟨[.deliveryReport ⟨"m3", .queueFull⟩], []⟩
  phase := .selecting []
  sends := 3
  issued := [⟨"m1", .accepted⟩, ⟨"m2", .accepted⟩, ⟨"m3", .queueFull⟩]
  responses := [.ok ⟨"m1", .accepted⟩,
    .error (.recoverable "Relay delivery expired before acceptance"), .ok ⟨"m2", .accepted⟩]
  events := []

/-- **A report of an earlier message ends the wait of a later one.**  The second command is answered
that its message has expired, although the relay has accepted it, and the third, whose recipient has
a full queue, that its message is accepted under the identifier of the second. -/
theorem expired_answers_next : freshWorker.Starting ∧
    Trace WorkerStep freshWorker expiringRun misledWorker ∧
    ¬ ∀ i response, misledWorker.responses[i]? = some response →
      misledWorker.Answered i response := by
  refine ⟨freshWorker_starting, RelayWorker.trace_of_run rfl, fun hall => ?_⟩
  rcases hall 1 _ rfl with ⟨report, hreport, haccept⟩ | ⟨hclosed, _⟩
  · cases hreport
    cases haccept
  · cases hclosed

end QuadraA.RuntimeRs
