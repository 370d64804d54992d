import QuadraA.Lib.Trace
import Mathlib.Data.Finset.Card

/-!
# The lock of the E2E state

The lock of `e2e-state.ts`: a directory under the home of the agent, with the lease of its owner in
a file.  Within a process the lock is re-entrant by a reference count, whoever asks for it again.

* `lock_exclusive` — mutual exclusion, in every run in which no takeover removes a directory that
  is claimed;
* `lock_shared` — a takeover between `mkdir` and the writing of the owner file.
-/

set_option linter.unusedSectionVars false

namespace QuadraA.Runtime

open QuadraA.Lib

def LOCK_LEASE_MS : ℕ := 30000
def LOCK_TIMEOUT_MS : ℕ := 10000

/-- `owner.json`, without the runtime and the pid, which nothing reads. -/
structure LockOwnerMetadata where
  holderId : String
  acquiredAt : ℕ
  leaseUntil : ℕ
deriving DecidableEq

/-- What `writeLockOwnerFile` writes. -/
def lockOwner (holderId : String) (now : ℕ) : LockOwnerMetadata where
  holderId := holderId
  acquiredAt := now
  leaseUntil := now + LOCK_LEASE_MS

/-- `!owner || owner.leaseUntil < Date.now()`. -/
def isStale (owner : Option LockOwnerMetadata) (now : ℕ) : Bool :=
  match owner with
  | none => true
  | some owner => owner.leaseUntil < now

/-- The lock directory.  `madeBy` is the process whose `mkdir` has made it, which is written
nowhere. -/
structure LockDir (P : Type) where
  madeBy : P
  owner : Option LockOwnerMetadata

/-- The module variables of a process; the heartbeat runs while there is a holder. -/
structure ProcessLock where
  processLockHolderId : Option String
  processLockRefCount : ℕ
deriving DecidableEq

/-- Where a task stands: before a file operation of `acquireProcessLock`, inside the critical
section, or before the removal in `releaseProcessLock`. -/
inductive LockPhase where
  | outside
  | trying (holderId : String) (deadline : ℕ)
  | occupied (holderId : String) (deadline : ℕ)
  | takingOver (holderId : String) (deadline : ℕ)
  | made (holderId : String)
  | written (holderId : String)
  | inside
  | releasing
deriving DecidableEq

/-- The task has made the directory and not yet counted it, or counts it no longer and has yet to
remove it. -/
def LockPhase.pending : LockPhase → Bool
  | .made _ | .written _ | .releasing => true
  | _ => false

/-- The next file operation of the task may throw.  Reading the owner file does not. -/
def LockPhase.mayFail : LockPhase → Bool
  | .trying _ _ | .takingOver _ _ | .made _ | .releasing => true
  | _ => false

/-- **The lock as the processes see it**, at a time `now`. -/
structure LockState (P T : Type) where
  now : ℕ
  lockDir : Option (LockDir P)
  processes : P → ProcessLock
  tasks : P × T → LockPhase

inductive LockEvent (P T : Type) where
  | entered (task : P × T)
  | started (task : P × T) (holderId : String)
  | made (task : P × T)
  | blocked (task : P × T)
  | wrote (task : P × T)
  | acquired (task : P × T)
  | inspected (task : P × T)
  | tookOver (task : P × T)
  | failed (task : P × T)
  | released (task : P × T)
  | removed (task : P × T)
  | beat (process : P)
  | crashed (process : P)
  | ticked

section

variable {P T : Type} [DecidableEq P] [DecidableEq T]

def LockState.setTask (s : LockState P T) (task : P × T) (phase : LockPhase) : LockState P T :=
  { s with tasks := Function.update s.tasks task phase }

def LockState.setProcess (s : LockState P T) (process : P) (lock : ProcessLock) :
    LockState P T :=
  { s with processes := Function.update s.processes process lock }

/-- `processLockRefCount` of a process. -/
def LockState.refCount (s : LockState P T) (process : P) : ℕ :=
  (s.processes process).processLockRefCount

/-- Where the task goes once it has read the owner file. -/
def inspect (owner : Option LockOwnerMetadata) (now : ℕ) (holderId : String) (deadline : ℕ) :
    LockPhase :=
  if isStale owner now then .takingOver holderId deadline
  else if deadline ≤ now then .outside
  else .trying holderId deadline

/-- The owner file of the directory, when there is one. -/
def LockState.owner (s : LockState P T) : Option LockOwnerMetadata :=
  s.lockDir.bind LockDir.owner

/-- **What happens between two `await`s.**  A file operation may fail, and a process may end at any
time; the directory stays behind. -/
inductive LockStep (s : LockState P T) : LockEvent P T → LockState P T → Prop
  | entered {task : P × T} {lock : ProcessLock} :
      s.tasks task = .outside → s.processes task.1 = lock →
      0 < lock.processLockRefCount →
      LockStep s (.entered task) ((s.setProcess task.1
        { lock with processLockRefCount := lock.processLockRefCount + 1 }).setTask
          task .inside)
  | started {task : P × T} {holderId : String} :
      s.tasks task = .outside → s.refCount task.1 = 0 →
      LockStep s (.started task holderId)
        (s.setTask task (.trying holderId (s.now + LOCK_TIMEOUT_MS)))
  | made {task : P × T} {holderId : String} {deadline : ℕ} :
      s.tasks task = .trying holderId deadline → s.lockDir = none →
      LockStep s (.made task)
        ({ s with lockDir := some { madeBy := task.1, owner := none } }.setTask task
          (.made holderId))
  | blocked {task : P × T} {holderId : String} {deadline : ℕ} {dir : LockDir P} :
      s.tasks task = .trying holderId deadline → s.lockDir = some dir →
      LockStep s (.blocked task) (s.setTask task (.occupied holderId deadline))
  | wrote {task : P × T} {holderId : String} {dir : LockDir P} :
      s.tasks task = .made holderId → s.lockDir = some dir →
      LockStep s (.wrote task)
        ({ s with lockDir := some { dir with owner := some (lockOwner holderId s.now) } }.setTask
          task (.written holderId))
  | acquired {task : P × T} {holderId : String} :
      s.tasks task = .written holderId →
      LockStep s (.acquired task) ((s.setProcess task.1
        { processLockHolderId := some holderId, processLockRefCount := 1 }).setTask task .inside)
  | inspected {task : P × T} {holderId : String} {deadline : ℕ} :
      s.tasks task = .occupied holderId deadline →
      LockStep s (.inspected task) (s.setTask task (inspect s.owner s.now holderId deadline))
  | tookOver {task : P × T} {holderId : String} {deadline : ℕ} :
      s.tasks task = .takingOver holderId deadline →
      LockStep s (.tookOver task)
        ({ s with lockDir := none }.setTask task (.trying holderId deadline))
  | failed {task : P × T} :
      (s.tasks task).mayFail = true →
      LockStep s (.failed task) (s.setTask task .outside)
  | uncounted {task : P × T} {lock : ProcessLock} :
      s.tasks task = .inside → s.processes task.1 = lock →
      lock.processLockRefCount = 0 →
      LockStep s (.released task) (s.setTask task .outside)
  | left {task : P × T} {lock : ProcessLock} :
      s.tasks task = .inside → s.processes task.1 = lock →
      1 < lock.processLockRefCount →
      LockStep s (.released task) ((s.setProcess task.1
        { lock with processLockRefCount := lock.processLockRefCount - 1 }).setTask
          task .outside)
  | released {task : P × T} {lock : ProcessLock} :
      s.tasks task = .inside → s.processes task.1 = lock →
      lock.processLockRefCount = 1 →
      LockStep s (.released task) ((s.setProcess task.1
        { processLockHolderId := none, processLockRefCount := 0 }).setTask task .releasing)
  | removed {task : P × T} :
      s.tasks task = .releasing →
      LockStep s (.removed task) ({ s with lockDir := none }.setTask task .outside)
  | beat {process : P} {holderId : String} {dir : LockDir P} :
      (s.processes process).processLockHolderId = some holderId → s.lockDir = some dir →
      LockStep s (.beat process)
        { s with lockDir := some { dir with owner := some (lockOwner holderId s.now) } }
  | crashed {process : P} :
      LockStep s (.crashed process)
        { s with
          processes := Function.update s.processes process
            { processLockHolderId := none, processLockRefCount := 0 }
          tasks := fun task => if task.1 = process then .outside else s.tasks task }
  | ticked : LockStep s .ticked { s with now := s.now + 1 }

/-! ### Claims -/

/-- **Who claims the directory**: a process that counts references to it, or one of its tasks on
the way in or out. -/
def LockState.Claims (s : LockState P T) : P × Option T → Prop
  | (process, none) => 0 < s.refCount process
  | (process, some task) => (s.tasks (process, task)).pending = true

variable {s s' start : LockState P T} {event : LockEvent P T} {events : List (LockEvent P T)}

theorem claims_setTask (s : LockState P T) (task : P × T) (phase : LockPhase)
    (a : P × Option T) :
    (s.setTask task phase).Claims a ↔
      if a = (task.1, some task.2) then phase.pending = true else s.Claims a := by
  obtain ⟨process, none | other⟩ := a
  · simp [LockState.Claims, LockState.setTask, LockState.refCount]
  · by_cases hsame : (process, other) = task
    · subst hsame
      simp [LockState.Claims, LockState.setTask]
    · have hne : ((process, some other) : P × Option T) ≠ (task.1, some task.2) := by
        intro h
        rw [Prod.mk.injEq, Option.some.injEq] at h
        exact hsame (Prod.ext h.1 h.2)
      rw [if_neg hne]
      simp [LockState.Claims, LockState.setTask, Function.update_of_ne hsame]

theorem claims_setProcess (s : LockState P T) (process : P) (lock : ProcessLock)
    (a : P × Option T) :
    (s.setProcess process lock).Claims a ↔
      if a = (process, none) then 0 < lock.processLockRefCount else s.Claims a := by
  obtain ⟨other, none | task⟩ := a
  · by_cases hsame : other = process
    · subst hsame
      simp [LockState.Claims, LockState.setProcess, LockState.refCount]
    · simp [LockState.Claims, LockState.setProcess, LockState.refCount, hsame]
  · simp [LockState.Claims, LockState.setProcess]

/-! ### The invariant -/

/-- **One claim at most**, by the process that has made the directory. -/
structure Exclusive (s : LockState P T) : Prop where
  unique : ∀ a b, s.Claims a → s.Claims b → a = b
  dir : ∀ a, s.Claims a → ∃ dir, s.lockDir = some dir ∧ dir.madeBy = a.1

/-- The references that a process counts compare with the number of its tasks inside. -/
def CountedBy (r : ℕ → ℕ → Prop) (s : LockState P T) : Prop :=
  ∀ process, ∃ tasks : Finset T, (∀ task, task ∈ tasks ↔ s.tasks (process, task) = .inside) ∧
    r (s.refCount process) tasks.card

/-- The references that a process counts are its tasks inside. -/
def Counted (s : LockState P T) : Prop := CountedBy (· = ·) s

/-- Without the directory there is no claim. -/
theorem Exclusive.no_claim (h : Exclusive s) (hdir : s.lockDir = none) (a : P × Option T) :
    ¬s.Claims a := by
  intro hclaim
  obtain ⟨dir, hsome, _⟩ := h.dir a hclaim
  rw [hdir] at hsome
  cases hsome

/-- No new claims on a directory of the same maker. -/
theorem Exclusive.of_subset (h : Exclusive s) (hclaims : ∀ a, s'.Claims a → s.Claims a)
    (hdir : ∀ dir, s.lockDir = some dir →
      ∃ dir', s'.lockDir = some dir' ∧ dir'.madeBy = dir.madeBy) : Exclusive s' := by
  refine ⟨fun a b ha hb => h.unique a b (hclaims a ha) (hclaims b hb), fun a ha => ?_⟩
  obtain ⟨dir, hsome, hmade⟩ := h.dir a (hclaims a ha)
  obtain ⟨dir', hsome', hsame⟩ := hdir dir hsome
  exact ⟨dir', hsome', hsame.trans hmade⟩

/-- One claim alone. -/
theorem Exclusive.of_only {b : P × Option T} {dir : LockDir P}
    (hclaims : ∀ a, s'.Claims a → a = b) (hdir : s'.lockDir = some dir)
    (hmade : dir.madeBy = b.1) : Exclusive s' := by
  refine ⟨fun a a' ha ha' => (hclaims a ha).trans (hclaims a' ha').symm, fun a ha => ?_⟩
  rw [hclaims a ha]
  exact ⟨dir, hdir, hmade⟩

/-- No claim at all. -/
theorem Exclusive.of_none (hclaims : ∀ a, ¬s'.Claims a) : Exclusive s' :=
  ⟨fun a _ ha => absurd ha (hclaims a), fun a ha => absurd ha (hclaims a)⟩

variable {task : P × T} {phase : LockPhase} {process : P} {lock : ProcessLock} {r : ℕ → ℕ → Prop}
  {tasks : Finset T}

/-- A task that moves to a phase without a claim. -/
theorem Exclusive.setTask (h : Exclusive s) (hphase : phase.pending = false) :
    Exclusive (s.setTask task phase) := by
  refine h.of_subset (fun a ha => ?_) fun dir hdir => ⟨dir, hdir, rfl⟩
  rw [claims_setTask] at ha
  split at ha
  · rw [hphase] at ha
    cases ha
  · exact ha

/-- A process that counts references before and after. -/
theorem Exclusive.setProcess (h : Exclusive s) (hbefore : 0 < s.refCount process) :
    Exclusive (s.setProcess process lock) := by
  refine h.of_subset (fun a ha => ?_) fun dir hdir => ⟨dir, hdir, rfl⟩
  rw [claims_setProcess] at ha
  split at ha
  · rename_i hsame
    rw [hsame]
    exact hbefore
  · exact ha

/-- **The condition of a step**: a takeover removes no directory that is claimed. -/
def TakesOver (s : LockState P T) (event : LockEvent P T) : Prop :=
  ∀ task, event = .tookOver task → ∀ a, ¬s.Claims a

def SafeLockStep (s : LockState P T) (event : LockEvent P T) (s' : LockState P T) : Prop :=
  LockStep s event s' ∧ TakesOver s event

/-- **Every safe step keeps the claims exclusive.** -/
theorem Exclusive.step (h : Exclusive s) (hstep : SafeLockStep s event s') : Exclusive s' := by
  obtain ⟨hstep, hsafe⟩ := hstep
  cases hstep with
  | @entered task lock _ hlock hcount =>
    have hbefore : 0 < s.refCount task.1 := by rw [LockState.refCount, hlock]; exact hcount
    exact (h.setProcess hbefore).setTask rfl
  | started _ _ => exact h.setTask rfl
  | @made task holderId _ _ hnone =>
    refine .of_only (fun a ha => ?_) rfl (b := (task.1, some task.2)) rfl
    rw [claims_setTask] at ha
    split at ha
    · assumption
    · exact absurd ha (h.no_claim hnone a)
  | blocked _ _ => exact h.setTask rfl
  | @wrote task holderId dir htask hdir =>
    have hclaim : s.Claims (task.1, some task.2) := by
      show (s.tasks task).pending = true
      rw [htask]
      rfl
    refine h.of_subset (fun a ha => ?_) fun found hfound => ?_
    · rw [claims_setTask] at ha
      split at ha
      · rename_i hsame
        rw [hsame]
        exact hclaim
      · exact ha
    · rw [hdir] at hfound
      obtain rfl := Option.some.inj hfound
      exact ⟨_, rfl, rfl⟩
  | @acquired task holderId htask =>
    have hclaim : s.Claims (task.1, some task.2) := by
      show (s.tasks task).pending = true
      rw [htask]
      rfl
    obtain ⟨dir, hdir, hmade⟩ := h.dir _ hclaim
    refine .of_only (fun a ha => ?_) hdir (b := (task.1, none)) hmade
    rw [claims_setTask] at ha
    split at ha
    · cases ha
    · rename_i hother
      rw [claims_setProcess] at ha
      split at ha
      · assumption
      · exact absurd (h.unique a _ ha hclaim) hother
  | @inspected task holderId deadline _ =>
    refine h.setTask ?_
    rw [inspect]
    split
    · rfl
    · split <;> rfl
  | tookOver _ =>
    refine .of_none fun a ha => ?_
    rw [claims_setTask] at ha
    split at ha
    · cases ha
    · exact hsafe _ rfl a ha
  | failed _ => exact h.setTask rfl
  | uncounted _ _ _ => exact h.setTask rfl
  | @left task lock _ hlock hcount =>
    have hbefore : 0 < s.refCount task.1 := by rw [LockState.refCount, hlock]; omega
    exact (h.setProcess hbefore).setTask rfl
  | @released task lock _ hlock hcount =>
    have hclaim : s.Claims (task.1, none) := by
      show 0 < s.refCount task.1
      rw [LockState.refCount, hlock, hcount]
      exact Nat.one_pos
    obtain ⟨dir, hdir, hmade⟩ := h.dir _ hclaim
    refine .of_only (fun a ha => ?_) hdir (b := (task.1, some task.2)) hmade
    rw [claims_setTask] at ha
    split at ha
    · assumption
    · rw [claims_setProcess] at ha
      split at ha
      · cases ha
      · rename_i hother
        exact absurd (h.unique a _ ha hclaim) hother
  | @removed task htask =>
    have hclaim : s.Claims (task.1, some task.2) := by
      show (s.tasks task).pending = true
      rw [htask]
      rfl
    refine .of_none fun a ha => ?_
    rw [claims_setTask] at ha
    split at ha
    · cases ha
    · rename_i hother
      exact hother (h.unique a _ ha hclaim)
  | @beat process holderId dir _ hdir =>
    refine h.of_subset (fun a ha => ha) fun found hfound => ?_
    rw [hdir] at hfound
    obtain rfl := Option.some.inj hfound
    exact ⟨_, rfl, rfl⟩
  | @crashed process =>
    refine h.of_subset (fun a ha => ?_) fun dir hdir => ⟨dir, hdir, rfl⟩
    obtain ⟨other, none | task⟩ := a
    · by_cases hsame : other = process
      · subst hsame
        simp [LockState.Claims, LockState.refCount] at ha
      · simpa [LockState.Claims, LockState.refCount, hsame] using ha
    · by_cases hsame : other = process
      · simp [LockState.Claims, hsame, LockPhase.pending] at ha
      · simpa [LockState.Claims, hsame] using ha
  | ticked => exact h.of_subset (fun a ha => ha) fun dir hdir => ⟨dir, hdir, rfl⟩

/-- A task moves, and its process counts anew. -/
theorem CountedBy.update (h : CountedBy r s) {inside : Finset T}
    (hinside : ∀ other, other ∈ inside ↔
      (if other = task.2 then phase else s.tasks (task.1, other)) = .inside)
    (hcard : r lock.processLockRefCount inside.card) :
    CountedBy r ((s.setProcess task.1 lock).setTask task phase) := by
  intro process
  by_cases hprocess : process = task.1
  · subst hprocess
    refine ⟨inside, fun other => ?_, ?_⟩
    · rw [hinside]
      by_cases hother : other = task.2
      · subst hother
        simp [LockState.setTask, LockState.setProcess]
      · have hne : ((task.1, other) : P × T) ≠ task := fun heq => hother (congrArg Prod.snd heq)
        simp [LockState.setTask, LockState.setProcess, hother, Function.update_of_ne hne]
    · simpa [LockState.refCount, LockState.setTask, LockState.setProcess] using hcard
  · obtain ⟨tasks, htasks, hcount⟩ := h process
    refine ⟨tasks, fun other => ?_, ?_⟩
    · have hne : ((process, other) : P × T) ≠ task :=
        fun heq => hprocess (congrArg Prod.fst heq)
      rw [htasks]
      simp [LockState.setTask, LockState.setProcess, Function.update_of_ne hne]
    · simpa [LockState.refCount, LockState.setTask, LockState.setProcess, hprocess] using hcount

/-- A task moves outside the critical section. -/
theorem CountedBy.setTask (h : CountedBy r s) (hbefore : s.tasks task ≠ .inside)
    (hafter : phase ≠ .inside) : CountedBy r (s.setTask task phase) := by
  obtain ⟨tasks, htasks, hcount⟩ := h task.1
  have hself : s.setProcess task.1 (s.processes task.1) = s := by
    rw [LockState.setProcess, Function.update_eq_self]
  have hupdated : CountedBy r ((s.setProcess task.1 (s.processes task.1)).setTask task phase) := by
    refine h.update (fun other => ?_) hcount
    rw [htasks]
    split
    · rename_i hsame
      rw [hsame]
      exact ⟨fun hin => absurd hin hbefore, fun hin => absurd hin hafter⟩
    · rfl
  rwa [hself] at hupdated

/-- The directory and the time are not counted. -/
theorem CountedBy.of_eq (h : CountedBy r s) (htasks : s'.tasks = s.tasks)
    (hprocesses : s'.processes = s.processes) : CountedBy r s' := by
  intro process
  obtain ⟨tasks, hmem, hcount⟩ := h process
  refine ⟨tasks, fun task => ?_, ?_⟩
  · rw [htasks]
    exact hmem task
  · rw [LockState.refCount, hprocesses]
    exact hcount

/-- A task inside is counted. -/
theorem Counted.pos (h : Counted s) {task : T} (htask : s.tasks (process, task) = .inside) :
    0 < s.refCount process := by
  obtain ⟨tasks, hmem, hcount⟩ := h process
  rw [hcount]
  exact Finset.card_pos.mpr ⟨task, (hmem task).mpr htask⟩

/-- The tasks inside once one more has entered. -/
theorem mem_insert_inside (hmem : ∀ other, other ∈ tasks ↔ s.tasks (task.1, other) = .inside)
    (other : T) :
    other ∈ insert task.2 tasks ↔
      (if other = task.2 then LockPhase.inside else s.tasks (task.1, other)) = .inside := by
  rw [Finset.mem_insert, hmem]
  split
  · simp [*]
  · simp [*]

/-- The tasks inside once one of them has left. -/
theorem mem_erase_inside (hmem : ∀ other, other ∈ tasks ↔ s.tasks (task.1, other) = .inside)
    (hphase : phase ≠ .inside) (other : T) :
    other ∈ tasks.erase task.2 ↔
      (if other = task.2 then phase else s.tasks (task.1, other)) = .inside := by
  rw [Finset.mem_erase, hmem]
  split
  · simp [*]
  · simp [*]

/-- **Every safe step keeps the count.** -/
theorem Counted.step (h : Counted s) (hexclusive : Exclusive s)
    (hstep : SafeLockStep s event s') : Counted s' := by
  obtain ⟨hstep, -⟩ := hstep
  cases hstep with
  | @entered task lock htask hlock _ =>
    obtain ⟨tasks, hmem, hcount⟩ := h task.1
    have hnot : task.2 ∉ tasks := by
      rw [hmem, htask]
      nofun
    refine h.update (mem_insert_inside hmem) ?_
    show lock.processLockRefCount + 1 = _
    rw [Finset.card_insert_of_notMem hnot, ← hcount, LockState.refCount, hlock]
  | started htask _ => exact h.setTask (by rw [htask]; nofun) nofun
  | made htask _ =>
    exact (h.of_eq rfl rfl).setTask (by rw [htask]; nofun) nofun
  | blocked htask _ => exact h.setTask (by rw [htask]; nofun) nofun
  | wrote htask _ =>
    exact (h.of_eq rfl rfl).setTask (by rw [htask]; nofun) nofun
  | @acquired task holderId htask =>
    -- the claim of the task is the only one, so its process counts nothing yet
    have hclaim : s.Claims (task.1, some task.2) := by
      show (s.tasks task).pending = true
      rw [htask]
      rfl
    have hnone (other : T) : s.tasks (task.1, other) ≠ .inside := by
      intro hinside
      have hheld : s.Claims (task.1, none) := h.pos hinside
      have habsurd := hexclusive.unique _ _ hclaim hheld
      cases habsurd
    have hinside (other : T) : other ∈ ({task.2} : Finset T) ↔
        (if other = task.2 then .inside else s.tasks (task.1, other)) = LockPhase.inside := by
      rw [Finset.mem_singleton]
      split
      · simp [*]
      · simp [*]
    exact h.update hinside (Finset.card_singleton _).symm
  | @inspected task holderId deadline htask =>
    refine h.setTask (by rw [htask]; nofun) ?_
    rw [inspect]
    split
    · nofun
    · split <;> nofun
  | tookOver htask =>
    exact (h.of_eq rfl rfl).setTask (by rw [htask]; nofun) nofun
  | failed hfails =>
    refine h.setTask (fun hinside => ?_) nofun
    rw [hinside] at hfails
    cases hfails
  | uncounted htask hlock hzero =>
    have hpos := h.pos htask
    rw [LockState.refCount, hlock, hzero] at hpos
    cases hpos
  | @left task lock htask hlock hcount =>
    obtain ⟨tasks, hmem, hcard⟩ := h task.1
    refine h.update (mem_erase_inside hmem nofun) ?_
    show lock.processLockRefCount - 1 = _
    rw [Finset.card_erase_of_mem ((hmem task.2).mpr htask), ← hcard, LockState.refCount, hlock]
  | @released task lock htask hlock hcount =>
    obtain ⟨tasks, hmem, hcard⟩ := h task.1
    refine h.update (mem_erase_inside hmem nofun) ?_
    rw [Finset.card_erase_of_mem ((hmem task.2).mpr htask), ← hcard, LockState.refCount, hlock,
      hcount]
  | removed htask =>
    exact (h.of_eq rfl rfl).setTask (by rw [htask]; nofun) nofun
  | beat _ _ => exact h.of_eq rfl rfl
  | @crashed process =>
    intro other
    by_cases hsame : other = process
    · refine ⟨∅, fun task => ?_, ?_⟩
      · simp [hsame]
      · simp [LockState.refCount, hsame]
    · obtain ⟨tasks, hmem, hcount⟩ := h other
      refine ⟨tasks, fun task => ?_, ?_⟩
      · simp [hmem, hsame]
      · simpa [LockState.refCount, hsame] using hcount
  | ticked => exact h.of_eq rfl rfl

/-- A state in which nobody is at the lock; a directory may have been left behind. -/
structure LockState.Starting (s : LockState P T) : Prop where
  tasks : ∀ task, s.tasks task = .outside
  counts : ∀ process, s.refCount process = 0

theorem Exclusive.of_starting (h : s.Starting) : Exclusive s := by
  refine .of_none fun a ha => ?_
  obtain ⟨process, none | task⟩ := a
  · have hpos : 0 < s.refCount process := ha
    rw [h.counts] at hpos
    cases hpos
  · have hpending : (s.tasks (process, task)).pending = true := ha
    rw [h.tasks] at hpending
    cases hpending

theorem Counted.of_starting (h : s.Starting) : Counted s := by
  refine fun process => ⟨∅, fun task => ?_, ?_⟩
  · rw [h.tasks]
    simp
  · rw [h.counts]
    rfl

/-- **Every safe run** keeps both. -/
theorem exclusive_of_run (hstart : start.Starting) (hrun : Trace SafeLockStep start events s) :
    Exclusive s ∧ Counted s := by
  induction hrun with
  | nil => exact ⟨.of_starting hstart, .of_starting hstart⟩
  | snoc _ hlast ih => exact ⟨ih.1.step hlast, ih.2.step ih.1 hlast⟩

/-- **Mutual exclusion.**  In every run in which no takeover removes a directory that is claimed,
one process at most is in its critical section, and a release removes a directory that its own
process has made. -/
theorem lock_exclusive (hstart : start.Starting) (hrun : Trace SafeLockStep start events s) :
    (∀ task task', s.tasks task = .inside → s.tasks task' = .inside → task.1 = task'.1) ∧
      ∀ task s', LockStep s (.removed task) s' →
        ∃ dir, s.lockDir = some dir ∧ dir.madeBy = task.1 := by
  obtain ⟨hexclusive, hcounted⟩ := exclusive_of_run hstart hrun
  refine ⟨fun task task' hinside hinside' => ?_, fun task s' hremoves => ?_⟩
  · have hclaim : s.Claims (task.1, none) := hcounted.pos hinside
    have hclaim' : s.Claims (task'.1, none) := hcounted.pos hinside'
    exact (Prod.mk.inj (hexclusive.unique _ _ hclaim hclaim')).1
  · cases hremoves with
    | removed htask =>
      refine hexclusive.dir (task.1, some task.2) ?_
      show (s.tasks task).pending = true
      rw [htask]
      rfl

end

/-! ### Runs of two processes -/

/-- Two processes with one task each, and no directory. -/
def restingLock : LockState Bool Unit where
  now := 0
  lockDir := none
  processes _ := { processLockHolderId := none, processLockRefCount := 0 }
  tasks _ := .outside

theorem restingLock_starting : restingLock.Starting := ⟨fun _ => rfl, fun _ => rfl⟩

/-- A second process waits while the first one is inside, and the first one removes what it has
made. -/
theorem lock_exclusive_sample :
    ∃ s : LockState Bool Unit, s.tasks (true, ()) = .releasing ∧
      s.tasks (false, ()) = .trying "holder-b" LOCK_TIMEOUT_MS ∧
      ∃ dir, s.lockDir = some dir ∧ dir.madeBy = true := by
  have hquiet {s : LockState Bool Unit} {event : LockEvent Bool Unit}
      (hevent : ∀ task, event ≠ .tookOver task) : TakesOver s event :=
    fun task h => absurd h (hevent task)
  have hrun : Trace SafeLockStep restingLock [] restingLock := .nil
  have hstarted := hrun.snoc ⟨@LockStep.started _ _ _ _ _ (true, ()) "holder-a" rfl rfl,
    hquiet nofun⟩
  have hmade := hstarted.snoc ⟨@LockStep.made _ _ _ _ _ (true, ()) _ _ rfl rfl, hquiet nofun⟩
  have hwrote := hmade.snoc ⟨@LockStep.wrote _ _ _ _ _ (true, ()) _ _ rfl rfl, hquiet nofun⟩
  have hacquired := hwrote.snoc ⟨@LockStep.acquired _ _ _ _ _ (true, ()) _ rfl, hquiet nofun⟩
  have hsecond := hacquired.snoc ⟨@LockStep.started _ _ _ _ _ (false, ()) "holder-b" rfl rfl,
    hquiet nofun⟩
  have hblocked := hsecond.snoc ⟨@LockStep.blocked _ _ _ _ _ (false, ()) _ _ _ rfl rfl,
    hquiet nofun⟩
  have hinspected := hblocked.snoc ⟨@LockStep.inspected _ _ _ _ _ (false, ()) _ _ rfl,
    hquiet nofun⟩
  have hreleased := hinspected.snoc ⟨@LockStep.released _ _ _ _ _ (true, ()) _ rfl rfl rfl,
    hquiet nofun⟩
  refine ⟨_, ?_, ?_, (lock_exclusive restingLock_starting hreleased).2 (true, ()) _
    (.removed rfl)⟩
  · rfl
  · decide

/-- **A takeover of a new directory.**  The second process finds the directory of the first one
without an owner file, and makes its own; the first one writes its owner file there.  Both are
inside, and the release of the first one removes the directory of the second. -/
theorem lock_shared :
    ∃ events, ∃ s s' : LockState Bool Unit, ∃ s'', Trace LockStep restingLock events s ∧
      s.tasks (true, ()) = .inside ∧ s.tasks (false, ()) = .inside ∧
      LockStep s (.released (true, ())) s' ∧ LockStep s' (.removed (true, ())) s'' ∧
      s'.tasks (false, ()) = .inside ∧
      ∃ dir, s'.lockDir = some dir ∧ dir.madeBy = false := by
  have hrun : Trace LockStep restingLock [] restingLock := .nil
  have hstarted := hrun.snoc (@LockStep.started _ _ _ _ _ (true, ()) "holder-a" rfl rfl)
  have hmade := hstarted.snoc (@LockStep.made _ _ _ _ _ (true, ()) _ _ rfl rfl)
  have hsecond := hmade.snoc (@LockStep.started _ _ _ _ _ (false, ()) "holder-b" rfl rfl)
  have hblocked := hsecond.snoc (@LockStep.blocked _ _ _ _ _ (false, ()) _ _ _ rfl rfl)
  have hinspected := hblocked.snoc (@LockStep.inspected _ _ _ _ _ (false, ()) _ _ rfl)
  have htakes := hinspected.snoc (@LockStep.tookOver _ _ _ _ _ (false, ()) _ _ rfl)
  have hmakes := htakes.snoc (@LockStep.made _ _ _ _ _ (false, ()) _ _ rfl rfl)
  have hwrote := hmakes.snoc (@LockStep.wrote _ _ _ _ _ (true, ()) _ _ rfl rfl)
  have hfirst := hwrote.snoc (@LockStep.acquired _ _ _ _ _ (true, ()) _ rfl)
  have hwrites := hfirst.snoc (@LockStep.wrote _ _ _ _ _ (false, ()) _ _ rfl rfl)
  have hboth := hwrites.snoc (@LockStep.acquired _ _ _ _ _ (false, ()) _ rfl)
  exact ⟨_, _, _, _, hboth, rfl, rfl, .released rfl rfl rfl, .removed rfl, rfl, _, rfl, rfl⟩

end QuadraA.Runtime
