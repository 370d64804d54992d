import Mathlib.Algebra.Group.Nat.Defs
import QuadraA.Lib.Record
import QuadraA.Lib.Trace

/-!
# Managed relays

The relay state of the daemon, `session_manager.rs`, and the worker of `relay_worker.rs` that keeps
a clone of it and reports what it changes.

* `ManagedRelayState` — the state, with `applyWorkerEvent`;
* `worker_mirrored` — this holds in every run, and no known relay is empty or there twice.
-/

namespace QuadraA.RuntimeRs.Managed

open QuadraA.Lib

/-! ### Text -/

/-- `char::is_whitespace`. -/
def rustWhitespace : List Char :=
  ['\t', '\n', '\x0b', '\x0c', '\r', ' ', '\u0085', '\u00a0', '\u1680', '\u2000', '\u2001',
    '\u2002', '\u2003', '\u2004', '\u2005', '\u2006', '\u2007', '\u2008', '\u2009', '\u200a',
    '\u2028', '\u2029', '\u202f', '\u205f', '\u3000']

/-- `str::trim`. -/
def rustTrim (text : List Char) : List Char :=
  ((text.dropWhile rustWhitespace.contains).reverse.dropWhile rustWhitespace.contains).reverse

def normalized (relayUrl : String) : String := String.ofList (rustTrim relayUrl.toList)

/-! ### The state -/

def DEFAULT_RELAY : String := "ws://relay-sg-1.quadra-a.com:8080"

structure ReachabilityPolicy where
  adaptive : Bool
  bootstrapProviders : List String
  autoDiscoverProviders : Bool

structure RelayFailureState where
  provider : String
  attempts : ℕ
  lastFailureAt : ℕ
  lastError : Option String

structure ManagedRelayState where
  relayUrl : String
  connected : Bool
  connectedAt : ℕ
  reachabilityPolicy : ReachabilityPolicy
  knownRelays : List String
  lastDiscoveryAt : Option ℕ
  relayFailures : Record String RelayFailureState

/-- The events, without those fields that only go to others. -/
inductive RelayWorkerEvent where
  | connected (relayUrl : String) (connectedAt : ℕ)
  | disconnected (relayUrl : String) (disconnectedAt : ℕ)
  | failureRecorded (relayUrl error : String) (failedAt : ℕ)
  | failureCleared (relayUrl : String)
  | relayPoolUpdated (relayUrl : String) (discoveredRelays : List String) (discoveredAt : ℕ)
  | envelopeReceived (relayUrl messageId : String)
  | deliveryReported (relayUrl messageId status : String)

namespace ManagedRelayState

def reset (reachabilityPolicy : ReachabilityPolicy) : ManagedRelayState :=
  let knownRelays :=
    if reachabilityPolicy.bootstrapProviders = [] then [DEFAULT_RELAY]
    else reachabilityPolicy.bootstrapProviders
  { relayUrl := knownRelays.headD DEFAULT_RELAY
    connected := false
    connectedAt := 0
    reachabilityPolicy := reachabilityPolicy
    knownRelays := knownRelays
    lastDiscoveryAt := none
    relayFailures := Record.empty }

/-- One round of the loops of `candidates` and `insert_known_relays`. -/
def insertRelay (relays : List String) (relayUrl : String) : List String :=
  let relayUrl := normalized relayUrl
  if relayUrl = "" ∨ relayUrl ∈ relays then relays else relays ++ [relayUrl]

def candidates (s : ManagedRelayState) : List String :=
  let relays := (s.relayUrl :: s.knownRelays ++ s.reachabilityPolicy.bootstrapProviders).foldl
    insertRelay []
  if relays = [] then [DEFAULT_RELAY] else relays

def insertKnownRelays (s : ManagedRelayState) (relays : List String) : ManagedRelayState :=
  { s with knownRelays := relays.foldl insertRelay s.knownRelays }

def recordFailure (s : ManagedRelayState) (relayUrl error : String) (nowMs : ℕ) :
    ManagedRelayState :=
  let attempts := ((s.relayFailures.get? relayUrl).map (·.attempts)).getD 0
  { s with
    relayFailures := s.relayFailures.set relayUrl
      ⟨relayUrl, min (attempts + 1) (2 ^ 32 - 1), nowMs, some error⟩ }

def clearFailure (s : ManagedRelayState) (relayUrl : String) : ManagedRelayState :=
  { s with relayFailures := s.relayFailures.erase relayUrl }

def markConnected (s : ManagedRelayState) (relayUrl : String) (nowMs : ℕ) : ManagedRelayState :=
  ({ s with relayUrl := relayUrl, connected := true, connectedAt := nowMs }.insertKnownRelays
    [relayUrl]).clearFailure relayUrl

def markDisconnected (s : ManagedRelayState) : ManagedRelayState := { s with connected := false }

def noteDiscovery (s : ManagedRelayState) (relays : List String) (nowMs : ℕ) :
    ManagedRelayState :=
  { s with lastDiscoveryAt := some nowMs }.insertKnownRelays relays

def applyWorkerEvent (s : ManagedRelayState) : RelayWorkerEvent → ManagedRelayState
  | .connected relayUrl connectedAt => s.markConnected relayUrl connectedAt
  | .disconnected _ _ => s.markDisconnected
  | .failureRecorded relayUrl error failedAt => s.recordFailure relayUrl error failedAt
  | .failureCleared relayUrl => s.clearFailure relayUrl
  | .relayPoolUpdated _ discoveredRelays discoveredAt =>
      s.noteDiscovery discoveredRelays discoveredAt
  | .envelopeReceived _ _ | .deliveryReported _ _ _ => s

end ManagedRelayState

/-! ### The worker -/

/-- Where the worker is: about to connect, with relays still to try, with a session, behind one that
has failed, before its next attempt, or at its end. -/
inductive WorkerStage where
  | starting
  | connecting (relayUrls : List String)
  | connected (relayUrl : String)
  | closing (relayUrl : String)
  | waiting
  | stopping
  | stopped

/-- **The worker** with its clone of the state. -/
structure ManagedWorker where
  stage : WorkerStage
  relayState : ManagedRelayState

def ManagedWorker.started (relayState : ManagedRelayState) : ManagedWorker :=
  ⟨.starting, relayState⟩

/-- **What the worker does**, with the events that it emits.  The outcomes of the relay, the
commands and the times are any. -/
inductive WorkerStep (s : ManagedWorker) : List RelayWorkerEvent → ManagedWorker → Prop
  -- `connect_managed_session`
  | keyRefused : s.stage = .starting → WorkerStep s [] { s with stage := .waiting }
  | begun :
      s.stage = .starting →
      WorkerStep s [] { s with stage := .connecting s.relayState.candidates }
  | refused {relayUrl : String} {relayUrls : List String} (error : String) (failedAt : ℕ) :
      s.stage = .connecting (relayUrl :: relayUrls) →
      WorkerStep s [.failureRecorded relayUrl error failedAt]
        ⟨.connecting relayUrls, s.relayState.recordFailure relayUrl error failedAt⟩
  /-- The pre-keys or the card are not published; `error` says which. -/
  | publishFailed {relayUrl : String} {relayUrls : List String} (error : String) (failedAt : ℕ) :
      s.stage = .connecting (relayUrl :: relayUrls) →
      WorkerStep s [.failureCleared relayUrl, .failureRecorded relayUrl error failedAt]
        ⟨.connecting relayUrls,
          (s.relayState.clearFailure relayUrl).recordFailure relayUrl error failedAt⟩
  | connected {relayUrl : String} {relayUrls : List String} (connectedAt : ℕ) :
      s.stage = .connecting (relayUrl :: relayUrls) →
      WorkerStep s [.failureCleared relayUrl, .connected relayUrl connectedAt]
        ⟨.connected relayUrl,
          (s.relayState.clearFailure relayUrl).markConnected relayUrl connectedAt⟩
  /-- No event says that all relays have failed. -/
  | exhausted :
      s.stage = .connecting [] →
      WorkerStep s [] ⟨.waiting, s.relayState.markDisconnected⟩
  -- the session: a send with the reports of others that come before its own, a message, a ping
  | sent {relayUrl : String} (reports : List (String × String)) :
      s.stage = .connected relayUrl →
      WorkerStep s (reports.map fun report => .deliveryReported relayUrl report.1 report.2) s
  | received {relayUrl : String} (messageId : String) :
      s.stage = .connected relayUrl → WorkerStep s [.envelopeReceived relayUrl messageId] s
  | sessionFailed {relayUrl : String} (reports : List (String × String)) (error : String)
      (failedAt : ℕ) :
      s.stage = .connected relayUrl →
      WorkerStep s
        ((reports.map fun report => .deliveryReported relayUrl report.1 report.2) ++
          [.failureRecorded relayUrl error failedAt])
        ⟨.closing relayUrl, s.relayState.recordFailure relayUrl error failedAt⟩
  -- `maintain_relay_set`
  | maintained {relayUrl : String} (discoveredRelays : List String) (discoveredAt : ℕ) :
      s.stage = .connected relayUrl → s.relayState.reachabilityPolicy.adaptive →
      s.relayState.reachabilityPolicy.autoDiscoverProviders →
      WorkerStep s [.relayPoolUpdated relayUrl discoveredRelays discoveredAt]
        { s with relayState := s.relayState.noteDiscovery discoveredRelays discoveredAt }
  | closed {relayUrl : String} (disconnectedAt : ℕ) :
      s.stage = .closing relayUrl →
      WorkerStep s [.disconnected relayUrl disconnectedAt]
        ⟨.waiting, s.relayState.markDisconnected⟩
  | retried : s.stage = .waiting → WorkerStep s [] { s with stage := .starting }
  /-- `Stop`, or the end of the commands. -/
  | stopReceived {relayUrl : String} :
      s.stage = .waiting ∨ s.stage = .connected relayUrl →
      WorkerStep s [] { s with stage := .stopping }
  | stopped (disconnectedAt : ℕ) :
      s.stage = .stopping →
      WorkerStep s [.disconnected s.relayState.relayUrl disconnectedAt]
        ⟨.stopped, s.relayState.markDisconnected⟩

/-! ### The mirror -/

/-- No entry is empty, and none is there twice. -/
structure CleanRelays (relays : List String) : Prop where
  nodup : relays.Nodup
  nonempty : "" ∉ relays

theorem CleanRelays.insertRelay {relays : List String} (h : CleanRelays relays)
    (relayUrl : String) : CleanRelays (ManagedRelayState.insertRelay relays relayUrl) := by
  unfold ManagedRelayState.insertRelay
  dsimp only
  split
  · exact h
  · rename_i hnew
    rw [not_or] at hnew
    refine ⟨h.nodup.append (List.nodup_singleton _) ?_, fun hmem => ?_⟩
    · rw [List.disjoint_singleton]
      exact hnew.2
    · rcases List.mem_append.mp hmem with hold | hself
      · exact h.nonempty hold
      · exact hnew.1 (List.mem_singleton.mp hself).symm

theorem CleanRelays.foldl {relays : List String} (h : CleanRelays relays) (more : List String) :
    CleanRelays (more.foldl ManagedRelayState.insertRelay relays) := by
  induction more generalizing relays with
  | nil => exact h
  | cons relayUrl more ih =>
    rw [List.foldl_cons]
    exact ih (h.insertRelay relayUrl)

theorem CleanRelays.applyWorkerEvent {s : ManagedRelayState} (h : CleanRelays s.knownRelays)
    (event : RelayWorkerEvent) : CleanRelays (s.applyWorkerEvent event).knownRelays := by
  cases event with
  | connected relayUrl connectedAt =>
    rw [ManagedRelayState.applyWorkerEvent, ManagedRelayState.markConnected]
    generalize [relayUrl] = relays
    exact h.foldl relays
  | relayPoolUpdated relayUrl discoveredRelays discoveredAt => exact h.foldl discoveredRelays
  | _ => exact h

theorem CleanRelays.events {s : ManagedRelayState} (h : CleanRelays s.knownRelays)
    (events : List RelayWorkerEvent) :
    CleanRelays (events.foldl ManagedRelayState.applyWorkerEvent s).knownRelays := by
  induction events generalizing s with
  | nil => exact h
  | cons event events ih =>
    rw [List.foldl_cons]
    exact ih (h.applyWorkerEvent event)

/-- Reports change nothing. -/
theorem foldl_reports (s : ManagedRelayState) (relayUrl : String)
    (reports : List (String × String)) :
    (reports.map fun report => RelayWorkerEvent.deliveryReported relayUrl report.1 report.2).foldl
      ManagedRelayState.applyWorkerEvent s = s := by
  induction reports with
  | nil => rfl
  | cons report reports ih => exact ih

/-- The worker looks for a relay, or is about to. -/
def WorkerStage.searching : WorkerStage → Bool
  | .starting | .connecting _ | .waiting => true
  | _ => false

/-- **The invariant**: the events make the state of the worker of the clone, which is disconnected
while the worker looks for a relay. -/
structure Mirrored (clone : ManagedRelayState) (events : List RelayWorkerEvent)
    (s : ManagedWorker) : Prop where
  mirrored : events.foldl ManagedRelayState.applyWorkerEvent clone = s.relayState
  searching : s.stage.searching → s.relayState.connected = false

theorem Mirrored.step {clone : ManagedRelayState} {events emitted : List RelayWorkerEvent}
    {s s' : ManagedWorker} (h : Mirrored clone events s) (hstep : WorkerStep s emitted s') :
    Mirrored clone (events ++ emitted) s' := by
  -- what the events of the step make of the state
  have hfold {t : ManagedRelayState}
      (ht : emitted.foldl ManagedRelayState.applyWorkerEvent s.relayState = t) :
      (events ++ emitted).foldl ManagedRelayState.applyWorkerEvent clone = t := by
    rw [List.foldl_append, h.mirrored]
    exact ht
  have hsearching {stage : WorkerStage} (hstage : s.stage = stage) (hsearch : stage.searching) :
      s.relayState.connected = false := h.searching (by rw [hstage]; exact hsearch)
  cases hstep with
  | keyRefused hstage => exact ⟨hfold rfl, fun _ => hsearching hstage rfl⟩
  | begun hstage => exact ⟨hfold rfl, fun _ => hsearching hstage rfl⟩
  | refused _ _ hstage => exact ⟨hfold rfl, fun _ => hsearching hstage rfl⟩
  | publishFailed _ _ hstage => exact ⟨hfold rfl, fun _ => hsearching hstage rfl⟩
  | connected => exact ⟨hfold rfl, nofun⟩
  | exhausted hstage =>
    -- the state is disconnected already, so nothing is to be reported
    have hsame : s.relayState = s.relayState.markDisconnected := by
      rw [ManagedRelayState.markDisconnected, ← hsearching hstage rfl]
    exact ⟨hfold hsame, fun _ => rfl⟩
  | sent reports hstage =>
    refine ⟨hfold (foldl_reports ..), fun hsearch => ?_⟩
    rw [hstage] at hsearch
    cases hsearch
  | received messageId hstage =>
    refine ⟨hfold rfl, fun hsearch => ?_⟩
    rw [hstage] at hsearch
    cases hsearch
  | sessionFailed reports error failedAt =>
    refine ⟨hfold ?_, nofun⟩
    rw [List.foldl_append, foldl_reports]
    rfl
  | maintained _ _ hstage =>
    refine ⟨hfold rfl, fun hsearch => ?_⟩
    rw [show _ = _ from hstage] at hsearch
    cases hsearch
  | closed => exact ⟨hfold rfl, fun _ => rfl⟩
  | retried hstage => exact ⟨hfold rfl, fun _ => hsearching hstage rfl⟩
  | stopReceived => exact ⟨hfold rfl, nofun⟩
  | stopped => exact ⟨hfold rfl, nofun⟩

/-- **The daemon mirrors its worker**: in every run of a worker that is started with a clone that is
disconnected, as `reset` has left it, the events emitted so far make the state of the worker of the
clone; and where no known relay is empty or there twice at first, none ever is. -/
theorem worker_mirrored {clone : ManagedRelayState} (hclone : clone.connected = false)
    {events : List (List RelayWorkerEvent)} {s : ManagedWorker}
    (hrun : Trace WorkerStep (.started clone) events s) :
    events.flatten.foldl ManagedRelayState.applyWorkerEvent clone = s.relayState ∧
      (CleanRelays clone.knownRelays → CleanRelays s.relayState.knownRelays) := by
  have hmirrored : Mirrored clone events.flatten s := by
    refine Trace.invariant (fun events s => Mirrored clone events.flatten s)
      ⟨rfl, fun _ => hclone⟩ (fun _ ih hstep => ?_) hrun
    rw [List.flatten_append, List.flatten_singleton]
    exact ih.step hstep
  refine ⟨hmirrored.mirrored, fun hclean => ?_⟩
  rw [← hmirrored.mirrored]
  exact hclean.events _

def oneRelay : ManagedRelayState := .reset ⟨true, ["ws://a"], true⟩

/-- A relay that refuses the worker, and a worker that has no other relay to try. -/
theorem worker_mirrored_sample :
    ∃ s, Trace WorkerStep (.started oneRelay)
        [[], [.failureRecorded "ws://a" "refused" 5], []] s ∧
      [RelayWorkerEvent.failureRecorded "ws://a" "refused" 5].foldl
        ManagedRelayState.applyWorkerEvent oneRelay = s.relayState := by
  have hcandidates : oneRelay.candidates = ["ws://a"] := by decide +kernel
  have hbegun : WorkerStep (.started oneRelay) [] ⟨.connecting oneRelay.candidates, oneRelay⟩ :=
    .begun rfl
  rw [hcandidates] at hbegun
  have hrun := ((Trace.nil.snoc hbegun).snoc (.refused "refused" 5 rfl)).snoc (.exhausted rfl)
  exact ⟨_, hrun, (worker_mirrored rfl hrun).1⟩

end QuadraA.RuntimeRs.Managed
