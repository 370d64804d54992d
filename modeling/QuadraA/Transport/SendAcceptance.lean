import Mathlib.Data.List.Basic
import Mathlib.Order.Basic
import QuadraA.Lib.Trace

/-!
# Reports of sends

`core/protocol/src/transport/relay-client.ts` on one connection: the SENDs of `sendEnvelope` and
`sendEnvelopeAwaitAccepted`, and the DELIVERY_REPORTs that settle the calls that wait.

* `settled_by_own_report` — the call takes the report of its own SEND exactly when the report is no
  late one and no earlier SEND is outstanding;
* `unawaited_send_report` — a call that takes the report of a send without a wait.

A SEND is the number of the SENDs before it.  A connection may be closed and opened anew; the
reports that were received before stay in the dispatch chain.
-/

set_option linter.unusedSectionVars false

namespace QuadraA.Transport

open QuadraA.Lib

inductive DeliveryStatus where
  | accepted
  | delivered
  | expired
  | queue_full
  | unknown_recipient
deriving DecidableEq

/-- The report by which the relay answers a SEND. -/
def DeliveryStatus.isAnswer : DeliveryStatus → Bool
  | .accepted | .queue_full | .unknown_recipient => true
  | .delivered | .expired => false

/-- A DELIVERY_REPORT.  `send` is the SEND that it is about, which the frame does not say. -/
structure DeliveryReport where
  send : ℕ
  messageId : String
  status : DeliveryStatus
  timestamp : ℕ

/-- The answers among the reports. -/
def answersOf (reports : List DeliveryReport) : List ℕ :=
  (reports.filter fun report => report.status.isAnswer).map fun report => report.send

structure RelaySendOutcome where
  messageId : String
  status : DeliveryStatus
  reportedAt : ℕ
deriving DecidableEq

/-- `deliveryReportError`. -/
def deliveryReportError : DeliveryStatus → String
  | .queue_full => "Relay queue full for recipient"
  | .unknown_recipient => "Recipient not found on relay"
  | .expired => "Relay delivery expired before acceptance"
  | .accepted => "Unexpected relay delivery report: accepted"
  | .delivered => "Unexpected relay delivery report: delivered"

/-- What a report makes of the call that it settles. -/
def DeliveryReport.outcome (report : DeliveryReport) : Except String RelaySendOutcome :=
  if report.status = .accepted then
    .ok { messageId := report.messageId, status := report.status, reportedAt := report.timestamp }
  else .error (deliveryReportError report.status)

/-- An operation of `sendAcceptanceChain`: one that waits, with the socket of its call, or one of a
connection that is degraded. -/
inductive AcceptedSend where
  | waiting (ws : ℕ)
  | optimistic

/-- A call that is settled by a report: its SEND, the report, and the outcome of the call. -/
structure SettledSend where
  send : ℕ
  report : DeliveryReport
  outcome : Except String RelaySendOutcome

/-- **One connection, and its SENDs and reports.**  `ws` counts the sockets of the connection;
`unreported` are the SENDs that the relay has not answered, `reports` those under way or in the
dispatch chain, each oldest first; `outstanding` are the SENDs whose answer is still to be
processed; `answered` are those that the relay has answered. -/
structure AcceptanceState where
  connected : Bool
  ws : ℕ
  acceptanceWaitDegraded : Bool
  sendAcceptanceChain : List AcceptedSend
  pendingDeliveryAcceptance : Option ℕ
  timedOut : ℕ
  sends : ℕ
  unreported : List ℕ
  answered : List ℕ
  reports : List DeliveryReport
  outstanding : List ℕ
  settled : List SettledSend

inductive AcceptanceEvent where
  | called
  | sent (reaches : Bool)
  | started (reaches : Bool)
  | startFailed
  | timedOut
  | degraded
  | processed
  | closed (received : ℕ)
  | opened
  | answered (report : DeliveryReport)
  | reportedLater (report : DeliveryReport)

namespace AcceptanceState

/-- A SEND goes out; on a socket that is closing it reaches nobody. -/
def transmit (s : AcceptanceState) (reaches : Bool) : AcceptanceState :=
  if reaches then
    { s with
      sends := s.sends + 1
      unreported := s.unreported ++ [s.sends]
      outstanding := s.outstanding ++ [s.sends] }
  else { s with sends := s.sends + 1 }

/-- `settlePendingDeliveryAcceptance`: the call that the report settles. -/
def settlement (s : AcceptanceState) (report : DeliveryReport) : Option SettledSend :=
  match s.pendingDeliveryAcceptance with
  | none => none
  | some send => if report.status = .delivered then none else some ⟨send, report, report.outcome⟩

/-- `handleRelayMessage`, for a DELIVERY_REPORT. -/
def handleDeliveryReport (s : AcceptanceState) (report : DeliveryReport) : AcceptanceState :=
  let s :=
    { s with outstanding := if report.status.isAnswer then s.outstanding.tail else s.outstanding }
  match s.settlement report with
  | none => s
  | some settled =>
      { s with pendingDeliveryAcceptance := none, settled := s.settled ++ [settled] }

end AcceptanceState

/-- **What happens at the client or at the relay.** -/
inductive AcceptanceStep (s : AcceptanceState) : AcceptanceEvent → AcceptanceState → Prop
  -- `sendEnvelopeAwaitAccepted`
  | called :
      s.connected = true →
      AcceptanceStep s .called
        { s with
          sendAcceptanceChain := s.sendAcceptanceChain ++
            [if s.acceptanceWaitDegraded then .optimistic else .waiting s.ws] }
  -- `sendEnvelope`
  | sent {reaches : Bool} :
      s.connected = true → AcceptanceStep s (.sent reaches) (s.transmit reaches)
  -- the next operation starts once the call before it is settled
  | started {ws : ℕ} {rest : List AcceptedSend} {reaches : Bool} :
      s.sendAcceptanceChain = .waiting ws :: rest → s.pendingDeliveryAcceptance = none →
      (reaches = true → s.connected = true ∧ ws = s.ws) →
      AcceptanceStep s (.started reaches)
        ({ s with
          sendAcceptanceChain := rest
          pendingDeliveryAcceptance := some s.sends }.transmit reaches)
  | startedOptimistic {rest : List AcceptedSend} {reaches : Bool} :
      s.sendAcceptanceChain = .optimistic :: rest → s.pendingDeliveryAcceptance = none →
      s.connected = true →
      AcceptanceStep s (.started reaches)
        ({ s with sendAcceptanceChain := rest }.transmit reaches)
  -- not connected, or an error of `ws.send`
  | startFailed {operation : AcceptedSend} {rest : List AcceptedSend} :
      s.sendAcceptanceChain = operation :: rest → s.pendingDeliveryAcceptance = none →
      AcceptanceStep s .startFailed { s with sendAcceptanceChain := rest }
  | timedOut {send : ℕ} :
      s.pendingDeliveryAcceptance = some send →
      AcceptanceStep s .timedOut
        { s with pendingDeliveryAcceptance := none, timedOut := s.timedOut + 1 }
  -- the handler of the timeout error
  | degraded :
      0 < s.timedOut →
      AcceptanceStep s .degraded
        { s with acceptanceWaitDegraded := true, timedOut := s.timedOut - 1 }
  | processed {report : DeliveryReport} {rest : List DeliveryReport} :
      s.reports = report :: rest →
      AcceptanceStep s .processed
        ({ s with reports := rest }.handleDeliveryReport report)
  -- reports that are not received yet are lost, and so are those of SENDs that are not answered yet
  | closed {received : ℕ} :
      AcceptanceStep s (.closed received)
        { s with
          connected := false
          acceptanceWaitDegraded := false
          pendingDeliveryAcceptance := none
          unreported := []
          answered := s.unreported ++ s.answered
          reports := s.reports.take received
          outstanding := answersOf (s.reports.take received) }
  -- a new socket, and its WELCOME
  | opened :
      s.connected = false →
      AcceptanceStep s .opened
        { s with connected := true, ws := s.ws + 1, acceptanceWaitDegraded := false }
  | answered {report : DeliveryReport} {rest : List ℕ} :
      s.unreported = report.send :: rest → report.status.isAnswer = true →
      AcceptanceStep s (.answered report)
        { s with
          unreported := rest
          answered := report.send :: s.answered
          reports := s.reports ++ [report] }
  | reportedLater {report : DeliveryReport} :
      report.send ∈ s.answered → report.status.isAnswer = false → s.connected = true →
      AcceptanceStep s (.reportedLater report) { s with reports := s.reports ++ [report] }

/-- A connection that has just been opened. -/
structure AcceptanceState.Starting (s : AcceptanceState) : Prop where
  pending : s.pendingDeliveryAcceptance = none
  unreported : s.unreported = []
  answered : s.answered = []
  reports : s.reports = []
  outstanding : s.outstanding = []
  settled : s.settled = []

/-- **The report that comes next is that of the call.**  It is no late `expired`, the SEND of the
call has reached the relay, and no earlier SEND is outstanding. -/
def AcceptanceState.InTurn (s : AcceptanceState) (send : ℕ) (status : DeliveryStatus) : Prop :=
  status ≠ .expired ∧ send ∈ s.outstanding ∧ ∀ earlier ∈ s.outstanding, send ≤ earlier

/-- The condition of a step: a report that settles a call comes in its turn. -/
def AcceptanceState.Orderly (s : AcceptanceState) : AcceptanceEvent → Prop
  | .processed => ∀ send report rest, s.pendingDeliveryAcceptance = some send →
      s.reports = report :: rest → report.status ≠ .delivered → s.InTurn send report.status
  | _ => True

def OrderlyStep (s : AcceptanceState) (event : AcceptanceEvent) (s' : AcceptanceState) : Prop :=
  AcceptanceStep s event s' ∧ s.Orderly event

variable {s s' start : AcceptanceState} {event : AcceptanceEvent} {events : List AcceptanceEvent}

/-! ### The invariant -/

/-- A late report comes after the answer to its SEND.  `done` are the SENDs whose answer is
processed. -/
def InOrder (done : ℕ → Prop) : List DeliveryReport → Prop
  | [] => True
  | report :: rest =>
      (report.status.isAnswer = false → done report.send) ∧
        InOrder (fun send => done send ∨ report.status.isAnswer = true ∧ send = report.send) rest

variable {done : ℕ → Prop} {report : DeliveryReport} {rest : List DeliveryReport}

theorem InOrder.mono {reports : List DeliveryReport} {done' : ℕ → Prop} (h : InOrder done reports)
    (hdone : ∀ send, done send → done' send) : InOrder done' reports := by
  induction reports generalizing done done' with
  | nil => trivial
  | cons report rest ih =>
    obtain ⟨hlate, hrest⟩ := h
    refine ⟨fun hstatus => hdone _ (hlate hstatus), ih hrest fun send hsend => ?_⟩
    rcases hsend with hsend | hsend
    · exact Or.inl (hdone send hsend)
    · exact Or.inr hsend

theorem InOrder.take {reports : List DeliveryReport} (h : InOrder done reports) (n : ℕ) :
    InOrder done (reports.take n) := by
  induction reports generalizing done n with
  | nil => rw [List.take_nil]; trivial
  | cons report rest ih =>
    cases n with
    | zero => trivial
    | succ n => exact ⟨h.1, ih h.2 n⟩

theorem InOrder.snoc {reports : List DeliveryReport} (h : InOrder done reports)
    (hlate : report.status.isAnswer = false → done report.send ∨ report.send ∈ answersOf reports) :
    InOrder done (reports ++ [report]) := by
  induction reports generalizing done with
  | nil =>
    refine ⟨fun hstatus => ?_, trivial⟩
    rcases hlate hstatus with hdone | hanswer
    · exact hdone
    · cases hanswer
  | cons first rest ih =>
    refine ⟨h.1, ih h.2 fun hstatus => ?_⟩
    rcases hlate hstatus with hdone | hanswer
    · exact Or.inl (Or.inl hdone)
    · cases hfirst : first.status.isAnswer with
      | false =>
        rw [answersOf, List.filter_cons_of_neg (by simp [hfirst])] at hanswer
        exact Or.inr hanswer
      | true =>
        rw [answersOf, List.filter_cons_of_pos (by simp [hfirst]), List.map_cons] at hanswer
        rcases List.mem_cons.mp hanswer with hsend | hsend
        · exact Or.inl (Or.inr ⟨rfl, hsend⟩)
        · exact Or.inr hsend

/-- **Answers come in the order of the SENDs.** -/
structure Ordered (s : AcceptanceState) : Prop where
  outstanding : s.outstanding = answersOf s.reports ++ s.unreported
  increasing : s.outstanding.Pairwise (· < ·)
  sent : ∀ send ∈ s.outstanding, send < s.sends
  answered : ∀ send ∈ s.answered, send < s.sends ∧ send ∉ s.unreported
  known : ∀ report ∈ s.reports, report.send ∈ s.answered
  late : InOrder (fun send => send < s.sends ∧ send ∉ s.outstanding) s.reports
  pending : ∀ send, s.pendingDeliveryAcceptance = some send →
    send < s.sends ∧ (send ∈ s.outstanding ∨ send ∉ s.answered)

theorem Ordered.of_starting (h : s.Starting) : Ordered s where
  outstanding := by rw [h.outstanding, h.reports, h.unreported]; rfl
  increasing := by rw [h.outstanding]; exact .nil
  sent := by rw [h.outstanding]; exact nofun
  answered := by rw [h.answered]; exact nofun
  known := by rw [h.reports]; exact nofun
  late := by rw [h.reports]; trivial
  pending := by rw [h.pending]; exact nofun

theorem Ordered.transmit (h : Ordered s) {pending : Option ℕ} (reaches : Bool)
    (hpending : ∀ send, pending = some send →
      send = s.sends ∨ s.pendingDeliveryAcceptance = some send) :
    Ordered ({ s with pendingDeliveryAcceptance := pending }.transmit reaches) := by
  have hfresh : s.sends ∉ s.outstanding := fun hmem => Nat.lt_irrefl _ (h.sent _ hmem)
  have hunanswered : s.sends ∉ s.answered := fun hmem => Nat.lt_irrefl _ (h.answered _ hmem).1
  cases reaches with
  | false =>
    refine ⟨h.outstanding, h.increasing, fun send hmem => ?_, fun send hmem => ?_, h.known, ?_,
      fun send hsend => ?_⟩
    · exact Nat.lt_succ_of_lt (h.sent send hmem)
    · obtain ⟨hlt, hout⟩ := h.answered send hmem
      exact ⟨Nat.lt_succ_of_lt hlt, hout⟩
    · exact h.late.mono fun send hdone => ⟨Nat.lt_succ_of_lt hdone.1, hdone.2⟩
    · rcases hpending send hsend with rfl | hpending
      · exact ⟨Nat.lt_succ_self _, Or.inr hunanswered⟩
      · obtain ⟨hlt, hwhere⟩ := h.pending send hpending
        exact ⟨Nat.lt_succ_of_lt hlt, hwhere⟩
  | true =>
    refine ⟨?_, ?_, fun send hmem => ?_, fun send hmem => ?_, h.known, ?_, fun send hsend => ?_⟩
    · show s.outstanding ++ [s.sends] = answersOf s.reports ++ (s.unreported ++ [s.sends])
      rw [h.outstanding, List.append_assoc]
    · refine List.pairwise_append.mpr ⟨h.increasing, List.pairwise_singleton _ _, ?_⟩
      intro send hmem last hlast
      rw [List.mem_singleton.mp hlast]
      exact h.sent send hmem
    · rcases List.mem_append.mp hmem with hmem | hmem
      · exact Nat.lt_succ_of_lt (h.sent send hmem)
      · rw [List.mem_singleton.mp hmem]
        exact Nat.lt_succ_self _
    · obtain ⟨hlt, hout⟩ := h.answered send hmem
      refine ⟨Nat.lt_succ_of_lt hlt, fun hmem' => ?_⟩
      rcases List.mem_append.mp hmem' with hmem' | hmem'
      · exact hout hmem'
      · rw [List.mem_singleton.mp hmem'] at hlt
        exact Nat.lt_irrefl _ hlt
    · refine h.late.mono fun send hdone => ⟨Nat.lt_succ_of_lt hdone.1, fun hmem => ?_⟩
      rcases List.mem_append.mp hmem with hmem | hmem
      · exact hdone.2 hmem
      · have hlt := hdone.1
        rw [List.mem_singleton.mp hmem] at hlt
        exact Nat.lt_irrefl _ hlt
    · rcases hpending send hsend with rfl | hpending
      · exact ⟨Nat.lt_succ_self _, Or.inl (List.mem_append_right _ (List.mem_singleton_self _))⟩
      · obtain ⟨hlt, hwhere⟩ := h.pending send hpending
        refine ⟨Nat.lt_succ_of_lt hlt, ?_⟩
        rcases hwhere with hmem | hout
        · exact Or.inl (List.mem_append_left _ hmem)
        · exact Or.inr hout

/-- The invariant is about no operation that has not started, and about no flag. -/
theorem Ordered.of_eq (h : Ordered s) (hsends : s'.sends = s.sends)
    (hunreported : s'.unreported = s.unreported) (hanswered : s'.answered = s.answered)
    (hreports : s'.reports = s.reports) (houtstanding : s'.outstanding = s.outstanding)
    (hpending : ∀ send, s'.pendingDeliveryAcceptance = some send →
      s.pendingDeliveryAcceptance = some send) : Ordered s' where
  outstanding := by rw [houtstanding, hreports, hunreported, h.outstanding]
  increasing := by rw [houtstanding]; exact h.increasing
  sent := by rw [houtstanding, hsends]; exact h.sent
  answered := by rw [hanswered, hsends, hunreported]; exact h.answered
  known := by rw [hreports, hanswered]; exact h.known
  late := by rw [hsends, houtstanding, hreports]; exact h.late
  pending send hsend := by
    rw [hsends, houtstanding, hanswered]
    exact h.pending send (hpending send hsend)

theorem Ordered.closed (h : Ordered s) (received : ℕ) :
    Ordered { s with
      connected := false
      acceptanceWaitDegraded := false
      pendingDeliveryAcceptance := none
      unreported := []
      answered := s.unreported ++ s.answered
      reports := s.reports.take received
      outstanding := answersOf (s.reports.take received) } := by
  have hsub : (answersOf (s.reports.take received)).Sublist s.outstanding := by
    rw [h.outstanding]
    exact ((List.take_sublist _ _).filter _ |>.map _).trans (List.sublist_append_left _ _)
  refine ⟨(List.append_nil _).symm, h.increasing.sublist hsub, fun send hmem => ?_,
    fun send hmem => ⟨?_, List.not_mem_nil⟩, fun report hmem => ?_, ?_, nofun⟩
  · exact h.sent send (hsub.subset hmem)
  · rcases List.mem_append.mp hmem with hmem | hmem
    · refine h.sent send ?_
      rw [h.outstanding]
      exact List.mem_append_right _ hmem
    · exact (h.answered send hmem).1
  · exact List.mem_append_right _ (h.known report (List.mem_of_mem_take hmem))
  · exact (h.late.take received).mono fun send hdone =>
      ⟨hdone.1, fun hmem => hdone.2 (hsub.subset hmem)⟩

theorem answersOf_append (reports : List DeliveryReport) (report : DeliveryReport) :
    answersOf (reports ++ [report])
      = answersOf reports ++ if report.status.isAnswer then [report.send] else [] := by
  rw [answersOf, List.filter_append, List.map_append]
  cases hstatus : report.status.isAnswer with
  | true => rw [List.filter_cons_of_pos (by exact hstatus)]; rfl
  | false => rw [List.filter_cons_of_neg (by simp [hstatus])]; rfl

theorem answersOf_cons (report : DeliveryReport) (rest : List DeliveryReport) :
    answersOf (report :: rest)
      = (if report.status.isAnswer then [report.send] else []) ++ answersOf rest := by
  rw [answersOf, List.filter_cons]
  cases hstatus : report.status.isAnswer <;> rfl

theorem Ordered.answer (h : Ordered s) {rest : List ℕ}
    (hunreported : s.unreported = report.send :: rest) (hstatus : report.status.isAnswer = true) :
    Ordered { s with
      unreported := rest
      answered := report.send :: s.answered
      reports := s.reports ++ [report] } := by
  have hmem : report.send ∈ s.outstanding := by
    rw [h.outstanding, hunreported]
    exact List.mem_append_right _ (List.mem_cons_self ..)
  have hnew : report.send ∉ rest := by
    have hunique : (report.send :: rest).Pairwise (· < ·) := by
      rw [← hunreported]
      refine h.increasing.sublist ?_
      rw [h.outstanding]
      exact List.sublist_append_right _ _
    exact fun hrest => Nat.lt_irrefl _ (List.rel_of_pairwise_cons hunique hrest)
  refine ⟨?_, h.increasing, h.sent, fun send hanswered => ?_, fun report' hreport => ?_,
    h.late.snoc fun hlate => ?_, fun send hsend => ?_⟩
  · show s.outstanding = answersOf (s.reports ++ [report]) ++ rest
    rw [h.outstanding, hunreported, answersOf_append, if_pos hstatus, List.append_assoc]
    rfl
  · rcases List.mem_cons.mp hanswered with rfl | hanswered
    · exact ⟨h.sent _ hmem, hnew⟩
    · obtain ⟨hlt, hout⟩ := h.answered send hanswered
      refine ⟨hlt, fun hrest => hout ?_⟩
      rw [hunreported]
      exact List.mem_cons_of_mem _ hrest
  · rcases List.mem_append.mp hreport with hreport | hreport
    · exact List.mem_cons_of_mem _ (h.known report' hreport)
    · rw [List.mem_singleton.mp hreport]
      exact List.mem_cons_self ..
  · rw [hstatus] at hlate
    cases hlate
  · obtain ⟨hlt, hwhere⟩ := h.pending send hsend
    refine ⟨hlt, ?_⟩
    rcases hwhere with hout | hout
    · exact Or.inl hout
    · by_cases heq : send = report.send
      · exact Or.inl (heq ▸ hmem)
      · exact Or.inr fun hanswered => (List.mem_cons.mp hanswered).elim heq hout

theorem Ordered.later (h : Ordered s) (hsent : report.send ∈ s.answered)
    (hstatus : report.status.isAnswer = false) :
    Ordered { s with reports := s.reports ++ [report] } := by
  obtain ⟨hlt, hout⟩ := h.answered report.send hsent
  refine ⟨?_, h.increasing, h.sent, h.answered, fun report' hreport => ?_,
    h.late.snoc fun _ => ?_, h.pending⟩
  · show s.outstanding = answersOf (s.reports ++ [report]) ++ s.unreported
    rw [answersOf_append, hstatus, if_neg Bool.false_ne_true, List.append_nil]
    exact h.outstanding
  · rcases List.mem_append.mp hreport with hreport | hreport
    · exact h.known report' hreport
    · rw [List.mem_singleton.mp hreport]
      exact hsent
  · by_cases hmem : report.send ∈ s.outstanding
    · rw [h.outstanding] at hmem
      exact Or.inr ((List.mem_append.mp hmem).resolve_right hout)
    · exact Or.inl ⟨hlt, hmem⟩

/-- An answer is no `delivered`, so it settles the call that waits. -/
theorem pending_handleDeliveryReport (s : AcceptanceState) (report : DeliveryReport) {send : ℕ}
    (hsend : (s.handleDeliveryReport report).pendingDeliveryAcceptance = some send) :
    s.pendingDeliveryAcceptance = some send ∧ report.status.isAnswer = false := by
  cases hpending : s.pendingDeliveryAcceptance with
  | none =>
    simp [AcceptanceState.handleDeliveryReport, AcceptanceState.settlement, hpending] at hsend
  | some waiting =>
    by_cases hdelivered : report.status = .delivered
    · simp only [AcceptanceState.handleDeliveryReport, AcceptanceState.settlement, hpending,
        if_pos hdelivered] at hsend
      exact ⟨hsend, by rw [hdelivered]; rfl⟩
    · simp [AcceptanceState.handleDeliveryReport, AcceptanceState.settlement, hpending,
        hdelivered] at hsend

theorem kept_handleDeliveryReport (s : AcceptanceState) (report : DeliveryReport) :
    (s.handleDeliveryReport report).sends = s.sends ∧
      (s.handleDeliveryReport report).unreported = s.unreported ∧
      (s.handleDeliveryReport report).answered = s.answered ∧
      (s.handleDeliveryReport report).reports = s.reports ∧
      (s.handleDeliveryReport report).outstanding
        = if report.status.isAnswer then s.outstanding.tail else s.outstanding := by
  rw [AcceptanceState.handleDeliveryReport]
  dsimp only
  split <;> exact ⟨rfl, rfl, rfl, rfl, rfl⟩

theorem Ordered.processed (h : Ordered s) (hreports : s.reports = report :: rest) :
    Ordered ({ s with reports := rest }.handleDeliveryReport report) := by
  obtain ⟨hsends, hunreported, hanswered, hrest, houtstanding⟩ :=
    kept_handleDeliveryReport { s with reports := rest } report
  have hlate := h.late
  rw [hreports] at hlate
  have hqueue := h.outstanding
  rw [hreports, answersOf_cons] at hqueue
  have hknown : ∀ report' ∈ rest, report'.send ∈ s.answered := fun report' hmem =>
    h.known report' (by rw [hreports]; exact List.mem_cons_of_mem _ hmem)
  cases hstatus : report.status.isAnswer with
  | true =>
    rw [hstatus, if_pos rfl] at houtstanding
    rw [hstatus, if_pos rfl, List.append_assoc, List.singleton_append] at hqueue
    have htail : s.outstanding.tail = answersOf rest ++ s.unreported := by rw [hqueue]; rfl
    have hcons : s.outstanding = report.send :: s.outstanding.tail := by rw [htail, hqueue]
    have hincreasing := h.increasing
    rw [hcons] at hincreasing
    refine ⟨?_, ?_, ?_, ?_, ?_, ?_, fun send hsend => ?_⟩
    · rw [houtstanding, hrest, hunreported]
      exact htail
    · rw [houtstanding]
      exact hincreasing.of_cons
    · rw [houtstanding, hsends]
      exact fun send hmem => h.sent send (List.mem_of_mem_tail hmem)
    · rw [hanswered, hsends, hunreported]
      exact h.answered
    · rw [hrest, hanswered]
      exact hknown
    · rw [hsends, houtstanding, hrest]
      refine hlate.2.mono fun send hdone => ?_
      rcases hdone with hdone | ⟨_, rfl⟩
      · exact ⟨hdone.1, fun hmem => hdone.2 (List.mem_of_mem_tail hmem)⟩
      · refine ⟨h.sent _ (by rw [hcons]; exact List.mem_cons_self ..), fun hmem => ?_⟩
        exact Nat.lt_irrefl _ (List.rel_of_pairwise_cons hincreasing hmem)
    · have hanswer := (pending_handleDeliveryReport _ _ hsend).2
      rw [hstatus] at hanswer
      cases hanswer
  | false =>
    rw [hstatus, if_neg Bool.false_ne_true] at houtstanding
    rw [hstatus, if_neg Bool.false_ne_true, List.nil_append] at hqueue
    refine ⟨?_, ?_, ?_, ?_, ?_, ?_, fun send hsend => ?_⟩
    · rw [houtstanding, hrest, hunreported]
      exact hqueue
    · rw [houtstanding]
      exact h.increasing
    · rw [houtstanding, hsends]
      exact h.sent
    · rw [hanswered, hsends, hunreported]
      exact h.answered
    · rw [hrest, hanswered]
      exact hknown
    · rw [hsends, houtstanding, hrest]
      refine hlate.2.mono fun send hdone => ?_
      rcases hdone with hdone | ⟨hanswer, _⟩
      · exact hdone
      · rw [hstatus] at hanswer
        cases hanswer
    · rw [hsends, houtstanding, hanswered]
      exact h.pending send (pending_handleDeliveryReport _ _ hsend).1

theorem Ordered.step (h : Ordered s) (hstep : AcceptanceStep s event s') : Ordered s' := by
  cases hstep with
  | called _ => exact h.of_eq rfl rfl rfl rfl rfl fun _ => id
  | @sent reaches _ => exact h.transmit reaches fun _ => Or.inr
  | @started ws rest reaches _ _ _ =>
    have hstarted : Ordered { s with sendAcceptanceChain := rest } :=
      h.of_eq rfl rfl rfl rfl rfl fun _ => id
    exact hstarted.transmit reaches fun send hsend => Or.inl (Option.some.inj hsend).symm
  | @startedOptimistic rest reaches _ _ _ =>
    have hstarted : Ordered { s with sendAcceptanceChain := rest } :=
      h.of_eq rfl rfl rfl rfl rfl fun _ => id
    exact hstarted.transmit reaches fun _ => Or.inr
  | startFailed _ _ => exact h.of_eq rfl rfl rfl rfl rfl fun _ => id
  | timedOut _ => exact h.of_eq rfl rfl rfl rfl rfl nofun
  | degraded _ => exact h.of_eq rfl rfl rfl rfl rfl fun _ => id
  | processed hreports => exact h.processed hreports
  | closed => exact h.closed _
  | opened _ => exact h.of_eq rfl rfl rfl rfl rfl fun _ => id
  | answered hunreported hstatus => exact h.answer hunreported hstatus
  | reportedLater hsent hstatus _ => exact h.later hsent hstatus

theorem Ordered.run (hstart : start.Starting) (hrun : Trace AcceptanceStep start events s) :
    Ordered s := by
  induction hrun with
  | nil => exact .of_starting hstart
  | snoc _ hlast ih => exact ih.step hlast

/-! ### The report of the call -/

/-- **The next report is about the SEND of the call exactly when it comes in its turn.** -/
theorem Ordered.inTurn (h : Ordered s) {send : ℕ}
    (hpending : s.pendingDeliveryAcceptance = some send) (hreports : s.reports = report :: rest)
    (hdelivered : report.status ≠ .delivered) :
    report.send = send ↔ s.InTurn send report.status := by
  have hlate := h.late
  rw [hreports] at hlate
  have hqueue := h.outstanding
  rw [hreports, answersOf_cons] at hqueue
  cases hstatus : report.status.isAnswer with
  | true =>
    rw [hstatus, if_pos rfl, List.append_assoc, List.singleton_append] at hqueue
    have hmem : report.send ∈ s.outstanding := by
      rw [hqueue]
      exact List.mem_cons_self ..
    have hleast : ∀ earlier ∈ s.outstanding, report.send ≤ earlier := by
      have hincreasing := h.increasing
      rw [hqueue] at hincreasing ⊢
      intro earlier hearlier
      rcases List.mem_cons.mp hearlier with rfl | hearlier
      · exact Nat.le_refl _
      · exact Nat.le_of_lt (List.rel_of_pairwise_cons hincreasing hearlier)
    refine ⟨?_, fun hturn => ?_⟩
    · rintro rfl
      refine ⟨fun hexpired => ?_, hmem, hleast⟩
      rw [hexpired] at hstatus
      cases hstatus
    · exact Nat.le_antisymm (hleast send hturn.2.1) (hturn.2.2 _ hmem)
  | false =>
    have hexpired : report.status = .expired := by
      cases hreport : report.status with
      | delivered => exact absurd hreport hdelivered
      | expired => rfl
      | accepted | queue_full | unknown_recipient =>
        rw [hreport] at hstatus
        cases hstatus
    refine ⟨?_, fun hturn => absurd hexpired hturn.1⟩
    rintro rfl
    -- the answer to this SEND is processed, and would have settled the call
    obtain ⟨_, hprocessed⟩ := hlate.1 hstatus
    have hanswered := h.known report (by rw [hreports]; exact List.mem_cons_self ..)
    rcases (h.pending _ hpending).2 with hout | hout
    · exact absurd hout hprocessed
    · exact absurd hanswered hout

theorem settled_of_step (hstep : AcceptanceStep s event s') :
    s'.settled = s.settled ∨ ∃ send report rest, event = .processed ∧
      s.pendingDeliveryAcceptance = some send ∧ s.reports = report :: rest ∧
        report.status ≠ .delivered ∧
          s'.settled = s.settled ++ [⟨send, report, report.outcome⟩] := by
  cases hstep with
  | @processed report rest hreports =>
    cases hpending : s.pendingDeliveryAcceptance with
    | none =>
      refine Or.inl ?_
      simp only [AcceptanceState.handleDeliveryReport, AcceptanceState.settlement]
    | some send =>
      by_cases hdelivered : report.status = .delivered
      · refine Or.inl ?_
        simp only [AcceptanceState.handleDeliveryReport, AcceptanceState.settlement,
          if_pos hdelivered]
      · refine Or.inr ⟨send, report, rest, rfl, rfl, hreports, hdelivered, ?_⟩
        simp only [AcceptanceState.handleDeliveryReport, AcceptanceState.settlement,
          if_neg hdelivered]
  | @sent reaches _ => cases reaches <;> exact Or.inl rfl
  | @started _ _ reaches _ _ _ => cases reaches <;> exact Or.inl rfl
  | @startedOptimistic _ reaches _ _ _ => cases reaches <;> exact Or.inl rfl
  | _ => exact Or.inl rfl

/-- **A call is settled by its own report.**  In every run whose reports settle calls in their turn
only, every call that is settled by a report has the report of its own SEND; and in every run, the
next report is that of the SEND of the call that it settles exactly when it comes in its turn. -/
theorem settled_by_own_report (hstart : start.Starting) :
    (∀ events s, Trace OrderlyStep start events s →
      ∀ settled ∈ s.settled, settled.report.send = settled.send) ∧
    ∀ events s, Trace AcceptanceStep start events s →
      ∀ report rest settled, s.reports = report :: rest → s.settlement report = some settled →
        (settled.report.send = settled.send ↔ s.Orderly .processed) := by
  refine ⟨fun events s hrun => ?_, fun events s hrun report rest settled hreports hsettled => ?_⟩
  · induction hrun with
    | nil =>
      rw [hstart.settled]
      exact nofun
    | snoc hrun hlast ih =>
      have hordered := Ordered.run hstart (hrun.mono And.left)
      rcases settled_of_step hlast.1 with hsame | ⟨send, report, rest, rfl, hpending, hreports,
        hdelivered, hnew⟩
      · rw [hsame]
        exact ih
      · rw [hnew]
        intro settled hmem
        rcases List.mem_append.mp hmem with hmem | hmem
        · exact ih settled hmem
        · rw [List.mem_singleton.mp hmem]
          exact (hordered.inTurn hpending hreports hdelivered).mpr
            (hlast.2 send report rest hpending hreports hdelivered)
  · have hordered := Ordered.run hstart hrun
    rw [AcceptanceState.settlement] at hsettled
    cases hpending : s.pendingDeliveryAcceptance with
    | none =>
      rw [hpending] at hsettled
      cases hsettled
    | some send =>
      rw [hpending] at hsettled
      dsimp only at hsettled
      split at hsettled
      · cases hsettled
      · rename_i hdelivered
        obtain rfl := Option.some.inj hsettled
        have hturn := hordered.inTurn hpending hreports hdelivered
        refine ⟨fun hown send' report' rest' hsend' hreport' _ => ?_, fun horderly => ?_⟩
        · obtain rfl := Option.some.inj (hpending.symm.trans hsend')
          obtain ⟨rfl, rfl⟩ := List.cons.inj (hreports.symm.trans hreport')
          exact hturn.mp hown
        · exact hturn.mpr (horderly send report rest hpending hreports hdelivered)

/-! ### Runs of one connection -/

def openConnection : AcceptanceState where
  connected := true
  ws := 0
  acceptanceWaitDegraded := false
  sendAcceptanceChain := []
  pendingDeliveryAcceptance := none
  timedOut := 0
  sends := 0
  unreported := []
  answered := []
  reports := []
  outstanding := []
  settled := []

theorem openConnection_starting : openConnection.Starting := ⟨rfl, rfl, rfl, rfl, rfl, rfl⟩

/-- One call, and the report that the relay has accepted its SEND. -/
theorem settled_by_own_report_sample :
    ∃ events s settled, Trace OrderlyStep openConnection events s ∧ s.settled = [settled] ∧
      settled.outcome = .ok ⟨"m0", .accepted, 5⟩ ∧ settled.report.send = settled.send := by
  have hrun : Trace OrderlyStep openConnection [] openConnection := .nil
  have hcalled := hrun.snoc ⟨.called rfl, trivial⟩
  have hstarted := hcalled.snoc
    ⟨@AcceptanceStep.started _ 0 [] true rfl rfl fun _ => ⟨rfl, rfl⟩, trivial⟩
  have hanswered := hstarted.snoc
    ⟨@AcceptanceStep.answered _ ⟨0, "m0", .accepted, 5⟩ [] rfl rfl, trivial⟩
  have hprocessed := hanswered.snoc ⟨.processed rfl, by
    rintro send report rest hsend hreports _
    cases hsend
    cases hreports
    exact ⟨nofun, List.mem_singleton_self _, fun earlier _ => Nat.zero_le earlier⟩⟩
  have hown := (settled_by_own_report openConnection_starting).1 _ _ hprocessed
  exact ⟨_, _, _, hprocessed, by rfl, by rfl, hown ⟨0, ⟨0, "m0", .accepted, 5⟩, .ok ⟨"m0", .accepted, 5⟩⟩
    (List.mem_singleton_self _)⟩

/-- **The report of a send without a wait.**  The queue of the recipient of a message that was sent
without a wait is full; a call for another message, whose SEND has gone out since, fails. -/
theorem unawaited_send_report :
    ∃ events s settled, Trace AcceptanceStep openConnection events s ∧ s.settled = [settled] ∧
      settled.outcome = .error "Relay queue full for recipient" ∧
        settled.report.send ≠ settled.send := by
  have hrun : Trace AcceptanceStep openConnection [] openConnection := .nil
  have hsent := hrun.snoc (@AcceptanceStep.sent _ true rfl)
  have hcalled := hsent.snoc (.called rfl)
  have hstarted := hcalled.snoc
    (@AcceptanceStep.started _ 0 [] true rfl rfl fun _ => ⟨rfl, rfl⟩)
  have hanswered := hstarted.snoc
    (@AcceptanceStep.answered _ ⟨0, "m0", .queue_full, 5⟩ [1] rfl rfl)
  have hprocessed := hanswered.snoc (.processed rfl)
  exact ⟨_, _, _, hprocessed, by rfl, by rfl, Nat.zero_ne_one⟩

end QuadraA.Transport
