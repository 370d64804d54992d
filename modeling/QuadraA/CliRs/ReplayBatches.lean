import QuadraA.CliRs.RecoveryCoordinator
import QuadraA.Lib.Trace
import Mathlib.Data.List.Sort
import QuadraA.Lib.Updates

/-!
# Replay batches of the daemon

The debounced replays of `daemon.rs`: `schedule_peer_replay` files a request in the batch of its
peer and spawns a task that sleeps and then flushes the batch, unless a later request has replaced
it.

* `replays_attended` — the invariant in every run in which no debounce task finds its batch running
  with requests, and no run ends beside a run of a newer batch;
* `replay_stranded` — a request whose debounce task fires during a run is left behind.

The lock of the coordinator is held within one step only, so each step is atomic.
-/

set_option linter.unusedSectionVars false

namespace QuadraA.CliRs

open QuadraA.Lib
open QuadraA.Runtime (PendingReplayRequest)

/-! ### Batches and tasks -/

/-- A batch with its timer.  `created` is the number of the batch among those of its peer, which is
written nowhere. -/
structure TimedPeerBatch extends PendingPeerBatch (PendingReplayRequest ℕ) where
  timerGeneration : ℕ
  timerActive : Bool
  running : Bool
  created : ℕ

/-- Where a spawned task stands: before `flush_peer_replay` locks the coordinator, or in
`replay_outbound_messages`. -/
inductive ReplayTask where
  | sleeping (peerDid : String) (generation : ℕ)
  | replaying (peerDid : String) (created : ℕ) (requests : List (PendingReplayRequest ℕ))

structure ReplayState (T : Type) where
  pendingReplays : Record String TimedPeerBatch
  created : String → ℕ
  tasks : T → Option ReplayTask

inductive ReplayEvent (T : Type) where
  | scheduled (task : T) (peerDid : String) (request : PendingReplayRequest ℕ)
  | fired (task : T)
  | ended (task : T)
  | cleared (peerDid : String)

section

variable {T : Type} [DecidableEq T]

namespace ReplayState

def setTask (s : ReplayState T) (task : T) (phase : Option ReplayTask) : ReplayState T :=
  { s with tasks := Function.update s.tasks task phase }

def setBatch (s : ReplayState T) (peerDid : String) (batch : TimedPeerBatch) : ReplayState T :=
  { s with pendingReplays := s.pendingReplays.set peerDid batch }

def removeBatch (s : ReplayState T) (peerDid : String) : ReplayState T :=
  { s with pendingReplays := s.pendingReplays.erase peerDid }

/-- `entry(peer_did).or_default()`, and a number for a batch that is created. -/
def entry (s : ReplayState T) (peerDid : String) : TimedPeerBatch × ReplayState T :=
  match s.pendingReplays.get? peerDid with
  | some batch => (batch, s)
  | none =>
      ({ items := .empty, timerGeneration := 0, timerActive := false, running := false,
          created := s.created peerDid },
        { s with created := Function.update s.created peerDid (s.created peerDid + 1) })

end ReplayState

/-- The batch once a request is filed. -/
def TimedPeerBatch.file (batch : TimedPeerBatch) (request : PendingReplayRequest ℕ) :
    TimedPeerBatch :=
  { batch with
    items := batch.items.set request.lookupMessageId request
    timerGeneration := batch.timerGeneration + 1
    timerActive := true }

/-- The batch once its requests are taken. -/
def TimedPeerBatch.take (batch : TimedPeerBatch) : TimedPeerBatch :=
  { batch with items := .empty, timerActive := false, running := true }

/-- What a run hands over: the requests of the batch by their times, those of one time in the order
of the hash map. -/
def TimedPeerBatch.Takes (batch : TimedPeerBatch) (requests : List (PendingReplayRequest ℕ)) :
    Prop :=
  requests.Perm batch.items.values ∧
    requests.Pairwise fun left right => left.requestedAt ≤ right.requestedAt

/-- **What happens while the coordinator is locked.** -/
inductive ReplayStep (s : ReplayState T) : ReplayEvent T → ReplayState T → Prop
  | scheduled {task : T} {peerDid : String} {request : PendingReplayRequest ℕ}
      {batch : TimedPeerBatch} {entered : ReplayState T} :
      s.tasks task = none → s.entry peerDid = (batch, entered) →
      ReplayStep s (.scheduled task peerDid request)
        ((entered.setBatch peerDid (batch.file request)).setTask task
          (some (.sleeping peerDid (batch.file request).timerGeneration)))
  | missed {task : T} {peerDid : String} {generation : ℕ} :
      s.tasks task = some (.sleeping peerDid generation) →
      s.pendingReplays.get? peerDid = none →
      ReplayStep s (.fired task) (s.setTask task none)
  | stale {task : T} {peerDid : String} {generation : ℕ} {batch : TimedPeerBatch} :
      s.tasks task = some (.sleeping peerDid generation) →
      s.pendingReplays.get? peerDid = some batch → batch.timerGeneration ≠ generation →
      ReplayStep s (.fired task) (s.setTask task none)
  | busy {task : T} {peerDid : String} {generation : ℕ} {batch : TimedPeerBatch} :
      s.tasks task = some (.sleeping peerDid generation) →
      s.pendingReplays.get? peerDid = some batch → batch.timerGeneration = generation →
      batch.running = true →
      ReplayStep s (.fired task)
        ((s.setBatch peerDid { batch with timerActive := false }).setTask task none)
  | flushed {task : T} {peerDid : String} {generation : ℕ} {batch : TimedPeerBatch}
      {requests : List (PendingReplayRequest ℕ)} :
      s.tasks task = some (.sleeping peerDid generation) →
      s.pendingReplays.get? peerDid = some batch → batch.timerGeneration = generation →
      batch.running = false → batch.Takes requests →
      ReplayStep s (.fired task)
        ((s.setBatch peerDid batch.take).setTask task
          (some (.replaying peerDid batch.created requests)))
  | endedAlone {task : T} {peerDid : String} {created : ℕ}
      {requests : List (PendingReplayRequest ℕ)} :
      s.tasks task = some (.replaying peerDid created requests) →
      s.pendingReplays.get? peerDid = none →
      ReplayStep s (.ended task) (s.setTask task none)
  | ended {task : T} {peerDid : String} {created : ℕ}
      {requests : List (PendingReplayRequest ℕ)} {batch : TimedPeerBatch} :
      s.tasks task = some (.replaying peerDid created requests) →
      s.pendingReplays.get? peerDid = some batch →
      ReplayStep s (.ended task)
        ((if batch.items.values = [] ∧ batch.timerActive = false then s.removeBatch peerDid
          else s.setBatch peerDid { batch with running := false }).setTask task none)
  -- `clear_pending_peer_batch`
  | cleared {peerDid : String} : ReplayStep s (.cleared peerDid) (s.removeBatch peerDid)

variable {s s' start : ReplayState T} {event : ReplayEvent T} {events : List (ReplayEvent T)}
  {task : T} {phase : Option ReplayTask} {peerDid : String} {batch : TimedPeerBatch}

theorem ReplayState.tasks_setTask {task' : T} {phase' : ReplayTask}
    (h : (s.setTask task phase).tasks task' = some phase') :
    task' = task ∧ phase = some phase' ∨ task' ≠ task ∧ s.tasks task' = some phase' := by
  dsimp only [ReplayState.setTask] at h
  rcases update_apply_eq_iff.mp h with ⟨htask, h⟩ | ⟨htask, h⟩
  · exact Or.inl ⟨htask, h⟩
  · exact Or.inr ⟨htask, h⟩

/-! ### The invariant -/

/-- **The condition of a step.**  A debounce task that the batch still waits for does not find it
running with requests, and a run does not end beside the run of a newer batch of its peer. -/
def CarefulReplayStep (s : ReplayState T) (event : ReplayEvent T) (s' : ReplayState T) : Prop :=
  ReplayStep s event s' ∧
    (∀ task peerDid batch, event = .fired task →
      s.tasks task = some (.sleeping peerDid batch.timerGeneration) →
        s.pendingReplays.get? peerDid = some batch → batch.running = true →
          batch.items.values = []) ∧
    ∀ task peerDid created requests batch, event = .ended task →
      s.tasks task = some (.replaying peerDid created requests) →
        s.pendingReplays.get? peerDid = some batch → batch.created ≠ created →
          batch.running = false

/-- **Every batch is attended.** -/
structure Attended (s : ReplayState T) : Prop where
  created : ∀ peerDid batch, s.pendingReplays.get? peerDid = some batch →
    batch.created < s.created peerDid
  replaying : ∀ task peerDid created requests,
    s.tasks task = some (.replaying peerDid created requests) → created < s.created peerDid
  running : ∀ task peerDid batch requests,
    s.tasks task = some (.replaying peerDid batch.created requests) →
      s.pendingReplays.get? peerDid = some batch → batch.running = true
  alone : ∀ task task' peerDid created requests requests',
    s.tasks task = some (.replaying peerDid created requests) →
      s.tasks task' = some (.replaying peerDid created requests') → task = task'
  waiting : ∀ peerDid batch, s.pendingReplays.get? peerDid = some batch →
    batch.items.values ≠ [] → ∃ task, s.tasks task = some (.sleeping peerDid batch.timerGeneration)

/-- A task goes on that no batch waits for. -/
theorem Attended.setTask (h : Attended s)
    (hreplaying : ∀ peerDid created requests, phase = some (.replaying peerDid created requests) →
      created < s.created peerDid ∧
        (∀ batch, s.pendingReplays.get? peerDid = some batch → batch.created = created →
          batch.running = true) ∧
        ∀ task' requests', s.tasks task' ≠ some (.replaying peerDid created requests'))
    (hwaiting : ∀ peerDid batch, s.pendingReplays.get? peerDid = some batch →
      batch.items.values ≠ [] → s.tasks task ≠ some (.sleeping peerDid batch.timerGeneration)) :
    Attended (s.setTask task phase) := by
  refine ⟨h.created, fun task' peerDid created requests htask => ?_,
    fun task' peerDid batch requests htask hbatch => ?_,
    fun task₁ task₂ peerDid created requests requests' htask₁ htask₂ => ?_,
    fun peerDid batch hbatch hitems => ?_⟩
  · rcases ReplayState.tasks_setTask htask with ⟨_, hphase⟩ | ⟨_, hother⟩
    · exact (hreplaying peerDid created requests hphase).1
    · exact h.replaying task' peerDid created requests hother
  · rcases ReplayState.tasks_setTask htask with ⟨_, hphase⟩ | ⟨_, hother⟩
    · exact (hreplaying peerDid batch.created requests hphase).2.1 batch hbatch rfl
    · exact h.running task' peerDid batch requests hother hbatch
  · rcases ReplayState.tasks_setTask htask₁ with ⟨rfl, hphase₁⟩ | ⟨_, hother₁⟩
    · rcases ReplayState.tasks_setTask htask₂ with ⟨rfl, _⟩ | ⟨_, hother₂⟩
      · rfl
      · exact absurd hother₂ ((hreplaying peerDid created requests hphase₁).2.2 task₂ requests')
    · rcases ReplayState.tasks_setTask htask₂ with ⟨rfl, hphase₂⟩ | ⟨_, hother₂⟩
      · exact absurd hother₁ ((hreplaying peerDid created requests' hphase₂).2.2 task₁ requests)
      · exact h.alone task₁ task₂ peerDid created requests requests' hother₁ hother₂
  · obtain ⟨task', htask⟩ := h.waiting peerDid batch hbatch hitems
    refine ⟨task', (Function.update_of_ne ?_ _ _).trans htask⟩
    rintro rfl
    exact hwaiting peerDid batch hbatch hitems htask

/-- A batch goes. -/
theorem Attended.removeBatch (h : Attended s) (peerDid : String) :
    Attended (s.removeBatch peerDid) := by
  have hold {peerDid' : String} {batch : TimedPeerBatch}
      (hget : (s.removeBatch peerDid).pendingReplays.get? peerDid' = some batch) :
      s.pendingReplays.get? peerDid' = some batch := by
    dsimp only [ReplayState.removeBatch] at hget
    rw [Record.get?_erase] at hget
    split at hget
    · cases hget
    · exact hget
  exact ⟨fun peerDid' batch hget => h.created peerDid' batch (hold hget), h.replaying,
    fun task peerDid' batch requests htask hget => h.running task peerDid' batch requests htask
      (hold hget), h.alone,
    fun peerDid' batch hget hitems => h.waiting peerDid' batch (hold hget) hitems⟩

/-- A batch changes that has no requests left, or keeps its debounce task. -/
theorem Attended.setBatch (h : Attended s) (hcreated : batch.created < s.created peerDid)
    (hrunning : ∀ task requests, s.tasks task = some (.replaying peerDid batch.created requests) →
      batch.running = true)
    (hwaiting : batch.items.values ≠ [] →
      ∃ task, s.tasks task = some (.sleeping peerDid batch.timerGeneration)) :
    Attended (s.setBatch peerDid batch) := by
  have hcases {peerDid' : String} {batch' : TimedPeerBatch}
      (hget : (s.setBatch peerDid batch).pendingReplays.get? peerDid' = some batch') :
      peerDid' = peerDid ∧ batch' = batch ∨ s.pendingReplays.get? peerDid' = some batch' := by
    dsimp only [ReplayState.setBatch] at hget
    rw [Record.get?_set] at hget
    split at hget
    · rename_i hsame
      exact Or.inl ⟨hsame.symm, (Option.some.inj hget).symm⟩
    · exact Or.inr hget
  refine ⟨fun peerDid' batch' hget => ?_, h.replaying,
    fun task peerDid' batch' requests htask hget => ?_, h.alone,
    fun peerDid' batch' hget hitems => ?_⟩
  · rcases hcases hget with ⟨rfl, rfl⟩ | hold
    · exact hcreated
    · exact h.created peerDid' batch' hold
  · rcases hcases hget with ⟨rfl, rfl⟩ | hold
    · exact hrunning task requests htask
    · exact h.running task peerDid' batch' requests htask hold
  · rcases hcases hget with ⟨rfl, rfl⟩ | hold
    · exact hwaiting hitems
    · exact h.waiting peerDid' batch' hold hitems

/-- The batch of a peer, created or not. -/
theorem Attended.entry (h : Attended s) {entered : ReplayState T}
    (hentry : s.entry peerDid = (batch, entered)) :
    Attended entered ∧ entered.tasks = s.tasks ∧ batch.created < entered.created peerDid ∧
      ∀ task requests, s.tasks task = some (.replaying peerDid batch.created requests) →
        batch.running = true := by
  rw [ReplayState.entry] at hentry
  cases hget : s.pendingReplays.get? peerDid with
  | some batch' =>
    rw [hget] at hentry
    cases hentry
    exact ⟨h, rfl, h.created peerDid batch hget,
      fun task requests htask => h.running task peerDid batch requests htask hget⟩
  | none =>
    rw [hget] at hentry
    cases hentry
    have hgrows (peerDid' : String) : s.created peerDid' ≤
        Function.update s.created peerDid (s.created peerDid + 1) peerDid' := by
      by_cases hpeer : peerDid' = peerDid
      · rw [hpeer, Function.update_self]
        omega
      · rw [Function.update_of_ne hpeer]
    refine ⟨⟨fun peerDid' batch hbatch => ?_, fun task peerDid' created requests htask => ?_,
      h.running, h.alone, h.waiting⟩, rfl, ?_, fun task requests htask => ?_⟩
    · exact Nat.lt_of_lt_of_le (h.created peerDid' batch hbatch) (hgrows peerDid')
    · exact Nat.lt_of_lt_of_le (h.replaying task peerDid' created requests htask) (hgrows peerDid')
    · show s.created peerDid < Function.update s.created peerDid (s.created peerDid + 1) peerDid
      rw [Function.update_self]
      omega
    · have hlt := h.replaying task peerDid _ requests htask
      dsimp only at hlt
      omega

/-- **Every step keeps the batches attended.** -/
theorem Attended.step (h : Attended s) (hstep : CarefulReplayStep s event s') : Attended s' := by
  obtain ⟨hstep, hfires, hends⟩ := hstep
  cases hstep with
  | @scheduled task peerDid request batch entered hnone hentry =>
    obtain ⟨hentered, htasks, hcreated, hrunning⟩ := h.entry hentry
    have hspawned : Attended (entered.setTask task
        (some (.sleeping peerDid (batch.file request).timerGeneration))) := by
      refine hentered.setTask nofun fun peerDid' batch' _ _ htask => ?_
      rw [htasks, hnone] at htask
      cases htask
    refine hspawned.setBatch hcreated (fun task' requests htask => ?_)
      fun _ => ⟨task, Function.update_self ..⟩
    rcases ReplayState.tasks_setTask htask with ⟨_, hphase⟩ | ⟨_, hother⟩
    · cases hphase
    · exact hrunning task' requests (htasks ▸ hother)
  | missed hsleeping hget =>
    refine h.setTask nofun fun peerDid' batch hbatch _ htask => ?_
    rw [hsleeping] at htask
    cases htask
    rw [hget] at hbatch
    cases hbatch
  | stale hsleeping hget hgeneration =>
    refine h.setTask nofun fun peerDid' batch hbatch _ htask => ?_
    rw [hsleeping] at htask
    cases htask
    rw [hget] at hbatch
    cases hbatch
    exact hgeneration rfl
  | @busy task peerDid generation batch hsleeping hget hgeneration hrunning =>
    subst hgeneration
    have hempty := hfires task peerDid batch rfl hsleeping hget hrunning
    have hbusy : Attended (s.setBatch peerDid { batch with timerActive := false }) :=
      h.setBatch (h.created peerDid batch hget) (fun _ _ _ => hrunning)
        fun hitems => absurd hempty hitems
    refine hbusy.setTask nofun fun peerDid' batch' hbatch hitems htask => ?_
    have hsame : s.tasks task = some (.sleeping peerDid' batch'.timerGeneration) := htask
    rw [hsleeping] at hsame
    injection Option.some.inj hsame with hpeer
    subst hpeer
    have hget' : (s.pendingReplays.set peerDid _).get? peerDid = some batch' := hbatch
    rw [Record.get?_set_self] at hget'
    obtain rfl := Option.some.inj hget'
    exact hitems hempty
  | @flushed task peerDid generation batch requests hsleeping hget hgeneration hrunning _ =>
    subst hgeneration
    have htaken : Attended (s.setBatch peerDid batch.take) :=
      h.setBatch (h.created peerDid batch hget) (fun _ _ _ => rfl) fun hitems => absurd rfl hitems
    refine htaken.setTask (fun peerDid' created requests' hphase => ?_)
      fun peerDid' batch' hbatch hitems htask => ?_
    · cases hphase
      refine ⟨h.created peerDid batch hget, fun batch' hbatch _ => ?_,
        fun task' requests' htask => ?_⟩
      · have hget' : (s.pendingReplays.set peerDid _).get? peerDid = some batch' := hbatch
        rw [Record.get?_set_self] at hget'
        obtain rfl := Option.some.inj hget'
        rfl
      · have hbefore := h.running task' peerDid batch requests' htask hget
        rw [hrunning] at hbefore
        cases hbefore
    · have hsame : s.tasks task = some (.sleeping peerDid' batch'.timerGeneration) := htask
      rw [hsleeping] at hsame
      injection Option.some.inj hsame with hpeer
      subst hpeer
      have hget' : (s.pendingReplays.set peerDid _).get? peerDid = some batch' := hbatch
      rw [Record.get?_set_self] at hget'
      obtain rfl := Option.some.inj hget'
      exact hitems rfl
  | endedAlone hreplaying _ =>
    refine h.setTask nofun fun peerDid' batch _ _ htask => ?_
    rw [hreplaying] at htask
    cases htask
  | @ended task peerDid created requests batch hreplaying hget =>
    have hdone : Attended (s.setTask task none) := by
      refine h.setTask nofun fun peerDid' batch _ _ htask => ?_
      rw [hreplaying] at htask
      cases htask
    split
    · exact hdone.removeBatch peerDid
    · refine hdone.setBatch (h.created peerDid batch hget) (fun task' requests' htask => ?_)
        fun hitems => hdone.waiting peerDid batch hget hitems
      rcases ReplayState.tasks_setTask htask with ⟨_, hphase⟩ | ⟨hne, hother⟩
      · cases hphase
      · -- a run of this batch beside the one that ends
        by_cases hcreated : batch.created = created
        · subst hcreated
          exact absurd (h.alone task' task peerDid _ requests' requests hother hreplaying) hne
        · have hidle := hends task peerDid created requests batch rfl hreplaying hget hcreated
          have hrunning := h.running task' peerDid batch requests' hother hget
          rw [hidle] at hrunning
          cases hrunning
  | cleared => exact h.removeBatch _

/-! ### Runs -/

/-- A daemon that has just started. -/
structure ReplayState.Starting (s : ReplayState T) : Prop where
  batches : ∀ peerDid, s.pendingReplays.get? peerDid = none
  tasks : ∀ task, s.tasks task = none

theorem Attended.of_starting (h : start.Starting) : Attended start := by
  have hbatch {peerDid : String} {batch : TimedPeerBatch} :
      start.pendingReplays.get? peerDid ≠ some batch := by
    rw [h.batches]
    nofun
  have htask {task : T} {phase : ReplayTask} : start.tasks task ≠ some phase := by
    rw [h.tasks]
    nofun
  exact ⟨fun _ _ hget => absurd hget hbatch, fun _ _ _ _ hphase => absurd hphase htask,
    fun _ _ _ _ hphase => absurd hphase htask, fun _ _ _ _ _ _ hphase => absurd hphase htask,
    fun _ _ hget => absurd hget hbatch⟩

theorem Attended.run (hstart : start.Starting)
    (hrun : Trace CarefulReplayStep start events s) : Attended s := by
  induction hrun with
  | nil => exact .of_starting hstart
  | snoc _ hlast ih => exact ih.step hlast

/-- A debounce task that its batch waits for takes its requests. -/
theorem takes_of_fired (hbatch : s.pendingReplays.get? peerDid = some batch)
    (hitems : batch.items.values ≠ [])
    (htask : s.tasks task = some (.sleeping peerDid batch.timerGeneration))
    (hstep : CarefulReplayStep s (.fired task) s') :
    ∃ requests, batch.Takes requests ∧
      s'.tasks task = some (.replaying peerDid batch.created requests) := by
  obtain ⟨hstep, hfires, _⟩ := hstep
  cases hstep with
  | missed hsleeping hget =>
    rw [htask] at hsleeping
    cases hsleeping
    rw [hbatch] at hget
    cases hget
  | stale hsleeping hget hgeneration =>
    rw [htask] at hsleeping
    cases hsleeping
    rw [hbatch] at hget
    cases hget
    exact absurd rfl hgeneration
  | busy hsleeping hget hgeneration hrunning =>
    rw [htask] at hsleeping
    cases hsleeping
    rw [hbatch] at hget
    cases hget
    exact absurd (hfires task peerDid batch rfl htask hbatch hrunning) hitems
  | flushed hsleeping hget _ _ htakes =>
    rw [htask] at hsleeping
    cases hsleeping
    rw [hbatch] at hget
    cases hget
    exact ⟨_, htakes, Function.update_self ..⟩

/-- **No request is stranded.**  In every careful run, a batch with requests has a debounce task
that takes all of them, in the order of their times, when it fires; and a batch has one run at
most. -/
theorem replays_attended (hstart : start.Starting)
    (hrun : Trace CarefulReplayStep start events s) :
    (∀ peerDid batch, s.pendingReplays.get? peerDid = some batch → batch.items.values ≠ [] →
      ∃ task, s.tasks task = some (.sleeping peerDid batch.timerGeneration) ∧
        ∀ s', CarefulReplayStep s (.fired task) s' →
          ∃ requests, batch.Takes requests ∧
            s'.tasks task = some (.replaying peerDid batch.created requests)) ∧
    ∀ task task' peerDid created requests requests',
      s.tasks task = some (.replaying peerDid created requests) →
        s.tasks task' = some (.replaying peerDid created requests') → task = task' := by
  have hattended := Attended.run hstart hrun
  refine ⟨fun peerDid batch hbatch hitems => ?_, hattended.alone⟩
  obtain ⟨task, htask⟩ := hattended.waiting peerDid batch hbatch hitems
  exact ⟨task, htask, fun s' hstep => takes_of_fired hbatch hitems htask hstep⟩

end

/-! ### Runs of one daemon -/

def idleReplays : ReplayState Bool where
  pendingReplays := .empty
  created _ := 0
  tasks _ := none

def sampleRequest (lookupMessageId : String) (requestedAt : ℕ) : PendingReplayRequest ℕ where
  lookupMessageId := lookupMessageId
  reason := "decrypt-failed"
  requestedAt := requestedAt

/-- A request waits for its debounce task. -/
theorem replays_attended_sample :
    ∃ s task, Trace CarefulReplayStep idleReplays
        [.scheduled true "did:agent:zBob" (sampleRequest "m1" 10)] s ∧
      s.tasks task = some (.sleeping "did:agent:zBob" 1) := by
  have hrun : Trace CarefulReplayStep idleReplays [] idleReplays := .nil
  have hscheduled := hrun.snoc ⟨@ReplayStep.scheduled _ _ _ true "did:agent:zBob"
    (sampleRequest "m1" 10) _ _ rfl rfl, nofun, nofun⟩
  obtain ⟨task, htask, _⟩ := (replays_attended ⟨fun _ => rfl, fun _ => rfl⟩ hscheduled).1
    "did:agent:zBob" _ (Record.get?_set_self _ _ _) (List.cons_ne_nil _ _)
  exact ⟨_, task, hscheduled, htask⟩

/-- **A stranded request.**  It comes in during a run and its debounce task fires during the run;
when the run has ended, nothing is left that would take it. -/
theorem replay_stranded :
    ∃ s batch, Trace ReplayStep idleReplays
        [.scheduled true "did:agent:zBob" (sampleRequest "m1" 10), .fired true,
          .scheduled false "did:agent:zBob" (sampleRequest "m2" 20), .fired false, .ended true] s ∧
      s.pendingReplays.get? "did:agent:zBob" = some batch ∧ batch.items.values ≠ [] ∧
      ∀ task, s.tasks task = none := by
  have hrun : Trace ReplayStep idleReplays [] idleReplays := .nil
  have hscheduled := hrun.snoc (@ReplayStep.scheduled _ _ _ true "did:agent:zBob"
    (sampleRequest "m1" 10) _ _ rfl rfl)
  have hflushed := hscheduled.snoc (@ReplayStep.flushed _ _ _ true "did:agent:zBob" 1 _
    [sampleRequest "m1" 10] (by rfl) (by rfl) (by rfl) (by rfl)
    ⟨List.Perm.refl _, List.pairwise_singleton _ _⟩)
  have hscheduled' := hflushed.snoc (@ReplayStep.scheduled _ _ _ false "did:agent:zBob"
    (sampleRequest "m2" 20) _ _ (by rfl) (by rfl))
  have hbusy := hscheduled'.snoc (@ReplayStep.busy _ _ _ false "did:agent:zBob" 2 _
    (by rfl) (by rfl) (by rfl) (by rfl))
  have hended := hbusy.snoc (@ReplayStep.ended _ _ _ true "did:agent:zBob" 0 _ _ (by rfl) (by rfl))
  refine ⟨_, _, hended, by rfl, ?_, fun task => by cases task <;> rfl⟩
  exact List.cons_ne_nil _ _

end QuadraA.CliRs
