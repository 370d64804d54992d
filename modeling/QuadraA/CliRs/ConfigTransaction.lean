import QuadraA.Lib.Serial
import QuadraA.Runtime.StateLock

/-!
# Configuration transactions of the Rust client

`with_locked_config_transaction` of `e2e_state.rs`, in one process.  Its process lock takes the
steps of the lock in `e2e-state.ts`; the holder id of a process stands here for the sender that
stops the heartbeat.

* `transactions_isolated` — isolation and release, in every run in which no transaction returns
  early and no save overwrites what another transaction has saved;
* `transactions_interfere` — two transactions that hold the lock together, and a configuration that
  does not load.

A configuration is a value of any type, and a failed save leaves the file as it was: the new
contents are written elsewhere and renamed.
-/

set_option linter.unusedSectionVars false

namespace QuadraA.CliRs

open QuadraA.Lib
open QuadraA.Runtime (LockState LockStep LockEvent LockPhase CountedBy mem_erase_inside
  mem_insert_inside)

/-! ### One transaction -/

section

variable {Config Bytes : Type} [DecidableEq Bytes]

/-- **The effect of a transaction** that runs alone: the result of its callback is saved if it
serialises to other bytes. -/
def runCallback (toVec : Config → Bytes) (stored : Config) (callback : Config → Config) : Config :=
  if toVec (callback stored) ≠ toVec stored then callback stored else stored

end

/-! ### Interleaved transactions -/

/-- Where a task stands: not inside the lock, in its callback, before `release_process_lock` with or
without success, or back with an error and the lock still counted. -/
inductive TransactionPhase (Config : Type) where
  | waiting
  | running (loaded : Config) (callback : Config → Config)
  | finishing (succeeded : Bool)
  | abandoned

/-- **One process and the file**, at an `await`. -/
structure ConfigTransactions (Config T : Type) where
  lock : LockState Unit T
  config : Config
  phases : T → TransactionPhase Config

inductive ConfigTransactionEvent (Config T : Type) where
  | lock (event : LockEvent Unit T)
  | loaded (task : T) (callback : Config → Config)
  | saved (task : T) (callback : Config → Config)
  | kept (task : T) (callback : Config → Config)
  | callbackFailed (task : T)
  | saveFailed (task : T)
  | abandoned (task : T)

section

variable {Config Bytes T : Type} [DecidableEq Bytes] [DecidableEq T] {toVec : Config → Bytes}

def ConfigTransactions.setPhase (s : ConfigTransactions Config T) (task : T)
    (phase : TransactionPhase Config) : ConfigTransactions Config T :=
  { s with phases := Function.update s.phases task phase }

/-- A task that is not inside the lock is in no transaction. -/
def ConfigTransactions.setLock (s : ConfigTransactions Config T) (lock : LockState Unit T) :
    ConfigTransactions Config T :=
  { s with
    lock := lock
    phases := fun task => if lock.tasks ((), task) = .inside then s.phases task else .waiting }

/-- **What happens between two `await`s.**  `abandoned` is an early return: `load_config`, or a
serialisation before or after the callback, has failed. -/
inductive ConfigTransactionStep (toVec : Config → Bytes) (s : ConfigTransactions Config T) :
    ConfigTransactionEvent Config T → ConfigTransactions Config T → Prop
  | lock {event : LockEvent Unit T} {lock : LockState Unit T} :
      LockStep s.lock event lock →
      (∀ task, event = .released task → ∃ succeeded, s.phases task.2 = .finishing succeeded) →
      ConfigTransactionStep toVec s (.lock event) (s.setLock lock)
  | loaded {task : T} {callback : Config → Config} :
      s.lock.tasks ((), task) = .inside → s.phases task = .waiting →
      ConfigTransactionStep toVec s (.loaded task callback)
        (s.setPhase task (.running s.config callback))
  | saved {task : T} {loaded : Config} {callback : Config → Config} :
      s.phases task = .running loaded callback → toVec (callback loaded) ≠ toVec loaded →
      ConfigTransactionStep toVec s (.saved task callback)
        ({ s with config := callback loaded }.setPhase task (.finishing true))
  | kept {task : T} {loaded : Config} {callback : Config → Config} :
      s.phases task = .running loaded callback → toVec (callback loaded) = toVec loaded →
      ConfigTransactionStep toVec s (.kept task callback) (s.setPhase task (.finishing true))
  | callbackFailed {task : T} {loaded : Config} {callback : Config → Config} :
      s.phases task = .running loaded callback →
      ConfigTransactionStep toVec s (.callbackFailed task) (s.setPhase task (.finishing false))
  | saveFailed {task : T} {loaded : Config} {callback : Config → Config} :
      s.phases task = .running loaded callback → toVec (callback loaded) ≠ toVec loaded →
      ConfigTransactionStep toVec s (.saveFailed task) (s.setPhase task (.finishing false))
  | abandonedLoad {task : T} :
      s.lock.tasks ((), task) = .inside → s.phases task = .waiting →
      ConfigTransactionStep toVec s (.abandoned task) (s.setPhase task .abandoned)
  | abandonedSave {task : T} {loaded : Config} {callback : Config → Config} :
      s.phases task = .running loaded callback →
      ConfigTransactionStep toVec s (.abandoned task) (s.setPhase task .abandoned)

/-- The callback of a transaction that succeeds by an event. -/
def ConfigTransactionEvent.succeeded :
    ConfigTransactionEvent Config T → Option (Config → Config)
  | .saved _ callback => some callback
  | .kept _ callback => some callback
  | _ => none

/-- The transaction of a task has returned, or none has been started. -/
def ConfigTransactions.Returned (s : ConfigTransactions Config T) (task : T) : Prop :=
  s.lock.tasks ((), task) = .outside ∨ s.phases task = .abandoned

/-! ### The condition of a step -/

/-- A file operation fails after which the directory of the lock stays behind: the owner file is not
written, or the directory is not removed. -/
def LeavesDir (lock : LockState Unit T) (event : LockEvent Unit T) : Prop :=
  ∃ task, event = .failed task ∧ (lock.tasks task).pending = true

/-- **The condition of a step.**  The process goes on, no directory is left behind, no transaction
returns early; and what is saved still was stored as it had been loaded. -/
def ConfigTransactions.Careful (s : ConfigTransactions Config T) :
    ConfigTransactionEvent Config T → Prop
  | .lock event => ¬LeavesDir s.lock event ∧ ∀ process, event ≠ .crashed process
  | .saved task _ => ∀ loaded callback, s.phases task = .running loaded callback →
      s.config = loaded
  | .abandoned _ => False
  | _ => True

def CarefulTransactionStep (toVec : Config → Bytes) (s : ConfigTransactions Config T)
    (event : ConfigTransactionEvent Config T) (s' : ConfigTransactions Config T) : Prop :=
  ConfigTransactionStep toVec s event s' ∧ s.Careful event

variable {s s' start : ConfigTransactions Config T} {event : ConfigTransactionEvent Config T}
  {events : List (ConfigTransactionEvent Config T)}

/-! ### The lock is released -/

/-- **What the lock of one process keeps**: it counts no more tasks than are inside, its heartbeat
runs for somebody that it counts, and the directory is that of somebody on the way in or out or
counted. -/
structure Held (lock : LockState Unit T) : Prop where
  counted : CountedBy (· ≤ ·) lock
  holder : (lock.processes ()).processLockHolderId.isSome = true → 0 < lock.refCount ()
  dir : lock.lockDir.isSome = true →
    (∃ task, (lock.tasks task).pending = true) ∨ 0 < lock.refCount ()

variable {lock : LockState Unit T} {task : Unit × T} {first : Config}
  {callbacks : List (Config → Config)}

/-- Who is on the way in or out still is when another task moves. -/
theorem pending_setTask (hbefore : (lock.tasks task).pending = false) (phase : LockPhase)
    (h : ∃ other, (lock.tasks other).pending = true) :
    ∃ other, ((lock.setTask task phase).tasks other).pending = true := by
  obtain ⟨other, hother⟩ := h
  refine ⟨other, ?_⟩
  have hne : other ≠ task := by
    rintro rfl
    rw [hbefore] at hother
    cases hother
  show (Function.update lock.tasks task phase other).pending = true
  rw [Function.update_of_ne hne]
  exact hother

/-- A task moves outside the critical section, and not from the directory. -/
theorem Held.setTask (h : Held lock) {phase : LockPhase}
    (hbefore : (lock.tasks task).pending = false) (hnot : lock.tasks task ≠ .inside)
    (hafter : phase ≠ .inside) :
    Held (lock.setTask task phase) where
  counted := h.counted.setTask hnot hafter
  holder := h.holder
  dir hdir := (h.dir hdir).imp_left (pending_setTask hbefore phase)

/-- **Every step of the lock that leaves no directory behind.** -/
theorem Held.step {lock' : LockState Unit T} {event : LockEvent Unit T} (h : Held lock)
    (hstep : LockStep lock event lock') (hleaves : ¬LeavesDir lock event)
    (hcrash : ∀ process, event ≠ .crashed process) : Held lock' := by
  cases hstep with
  | @entered task counts htask hlock hcount =>
    obtain ⟨tasks, hmem, hle⟩ := h.counted task.1
    have hnot : task.2 ∉ tasks := by
      rw [hmem, htask]
      rintro ⟨⟩
    refine ⟨h.counted.update (mem_insert_inside hmem) ?_, fun _ => ?_, fun _ => Or.inr ?_⟩
    · rw [Finset.card_insert_of_notMem hnot]
      rw [LockState.refCount, hlock] at hle
      exact Nat.succ_le_succ hle
    · exact Nat.succ_pos _
    · exact Nat.succ_pos _
  | started htask _ => exact h.setTask (by rw [htask]; rfl) (by rw [htask]; rintro ⟨⟩) (by rintro ⟨⟩)
  | @made task holderId deadline htask _ =>
    refine ⟨(h.counted.of_eq rfl rfl).setTask ?_ (by rintro ⟨⟩), h.holder, fun _ => Or.inl ⟨task, ?_⟩⟩
    · show lock.tasks task ≠ _
      rw [htask]
      rintro ⟨⟩
    · show (Function.update lock.tasks task (.made holderId) task).pending = true
      rw [Function.update_self]
      rfl
  | blocked htask _ => exact h.setTask (by rw [htask]; rfl) (by rw [htask]; rintro ⟨⟩) (by rintro ⟨⟩)
  | @wrote task holderId dir htask _ =>
    refine ⟨(h.counted.of_eq rfl rfl).setTask ?_ (by rintro ⟨⟩), h.holder, fun _ => Or.inl ⟨task, ?_⟩⟩
    · show lock.tasks task ≠ _
      rw [htask]
      rintro ⟨⟩
    · show (Function.update lock.tasks task (.written holderId) task).pending = true
      rw [Function.update_self]
      rfl
  | @acquired task holderId _ =>
    obtain ⟨tasks, hmem, _⟩ := h.counted task.1
    refine ⟨h.counted.update (mem_insert_inside hmem) ?_, fun _ => Nat.one_pos,
      fun _ => Or.inr Nat.one_pos⟩
    exact Finset.card_pos.mpr ⟨task.2, Finset.mem_insert_self task.2 tasks⟩
  | @inspected task holderId deadline htask =>
    refine h.setTask (by rw [htask]; rfl) (by rw [htask]; rintro ⟨⟩) ?_
    rw [Runtime.inspect]
    split
    · rintro ⟨⟩
    · split <;> rintro ⟨⟩
  | @tookOver task _ _ htask =>
    refine ⟨(h.counted.of_eq rfl rfl).setTask ?_ (by rintro ⟨⟩), h.holder, by rintro ⟨⟩⟩
    show lock.tasks task ≠ _
    rw [htask]
    rintro ⟨⟩
  | @failed task hfails =>
    have hbefore : (lock.tasks task).pending = false := by
      rw [← Bool.not_eq_true]
      exact fun hpending => hleaves ⟨task, rfl, hpending⟩
    refine h.setTask hbefore (fun hinside => ?_) (by rintro ⟨⟩)
    rw [hinside] at hfails
    cases hfails
  | @uncounted task counts htask hlock hzero =>
    obtain ⟨tasks, hmem, _⟩ := h.counted task.1
    have hnone : lock.refCount () = 0 := by
      rw [LockState.refCount, hlock]
      exact hzero
    have hself : lock.setProcess task.1 (lock.processes task.1) = lock := by
      rw [LockState.setProcess, Function.update_eq_self]
    have hcounted : CountedBy (· ≤ ·)
        ((lock.setProcess task.1 (lock.processes task.1)).setTask task .outside) := by
      refine h.counted.update (mem_erase_inside hmem (by rintro ⟨⟩)) ?_
      rw [hlock, hzero]
      exact Nat.zero_le _
    rw [hself] at hcounted
    exact ⟨hcounted, h.holder,
      fun hdir => (h.dir hdir).imp_left (pending_setTask (by rw [htask]; rfl) .outside)⟩
  | @left task counts htask hlock hcount =>
    obtain ⟨tasks, hmem, hle⟩ := h.counted task.1
    have hpos : 0 < counts.processLockRefCount - 1 := Nat.sub_pos_of_lt hcount
    refine ⟨h.counted.update (mem_erase_inside hmem (by rintro ⟨⟩)) ?_, fun _ => hpos,
      fun _ => Or.inr hpos⟩
    rw [Finset.card_erase_of_mem ((hmem task.2).mpr htask)]
    rw [LockState.refCount, hlock] at hle
    exact Nat.sub_le_sub_right hle 1
  | @released task counts htask _ _ =>
    obtain ⟨tasks, hmem, _⟩ := h.counted task.1
    refine ⟨h.counted.update (mem_erase_inside hmem (by rintro ⟨⟩)) (Nat.zero_le _), by rintro ⟨⟩,
      fun _ => Or.inl ⟨task, ?_⟩⟩
    show (Function.update lock.tasks task .releasing task).pending = true
    rw [Function.update_self]
    rfl
  | @removed task htask =>
    refine ⟨(h.counted.of_eq rfl rfl).setTask ?_ (by rintro ⟨⟩), h.holder, by rintro ⟨⟩⟩
    show lock.tasks task ≠ _
    rw [htask]
    rintro ⟨⟩
  | beat hholder _ =>
    exact ⟨h.counted.of_eq rfl rfl, h.holder,
      fun _ => Or.inr (h.holder (by rw [hholder]; rfl))⟩
  | crashed => exact absurd rfl (hcrash _)
  | ticked => exact ⟨h.counted.of_eq rfl rfl, h.holder, h.dir⟩

/-- Nobody inside, or on the way in or out: the lock is free. -/
theorem Held.free (h : Held lock) (houtside : ∀ task, lock.tasks ((), task) = .outside) :
    lock.refCount () = 0 ∧ (lock.processes ()).processLockHolderId = none ∧
      lock.lockDir = none := by
  obtain ⟨tasks, hmem, hle⟩ := h.counted ()
  have hnone : tasks = ∅ := by
    refine Finset.eq_empty_of_forall_notMem fun task htask => ?_
    rw [hmem, houtside] at htask
    cases htask
  have hzero : lock.refCount () = 0 := by
    rw [hnone, Finset.card_empty] at hle
    exact Nat.le_zero.mp hle
  refine ⟨hzero, ?_, ?_⟩
  · rw [← Option.not_isSome_iff_eq_none]
    intro hholder
    have hpos := h.holder hholder
    omega
  · rw [← Option.not_isSome_iff_eq_none]
    intro hdir
    rcases h.dir hdir with ⟨⟨⟨⟩, task⟩, hpending⟩ | hpos
    · rw [houtside] at hpending
      cases hpending
    · omega

/-! ### The stored configuration -/

/-- **Serial so far.**  An order of the callbacks that have succeeded leads to the stored
configuration, and passes through what each transaction in progress has loaded. -/
def Serial (toVec : Config → Bytes) (start : Config) (callbacks : List (Config → Config))
    (s : ConfigTransactions Config T) : Prop :=
  ∃ order : List (Config → Config), order.Perm callbacks ∧
    order.foldl (runCallback toVec) start = s.config ∧
    ∀ task loaded callback, s.phases task = .running loaded callback →
      Passes (runCallback toVec) start order loaded

/-- No transaction succeeds or begins. -/
theorem Serial.quiet (h : Serial toVec first callbacks s) (hnone : event.succeeded = none)
    (hconfig : s'.config = s.config)
    (hphases : ∀ task loaded callback, s'.phases task = .running loaded callback →
      s.phases task = .running loaded callback) :
    Serial toVec first (callbacks ++ event.succeeded.toList) s' := by
  obtain ⟨order, hperm, hfold, hpasses⟩ := h
  rw [hnone, Option.toList_none, List.append_nil]
  refine ⟨order, hperm, ?_, fun task loaded callback hphase => ?_⟩
  · rw [hconfig]
    exact hfold
  · exact hpasses task loaded callback (hphases task loaded callback hphase)

/-- What the transactions in progress have loaded, once one of them has come to its end. -/
theorem running_of_setPhase {task : T} {phase : TransactionPhase Config}
    (hphase : ∀ loaded callback, phase ≠ .running loaded callback) (other : T) (loaded : Config)
    (callback : Config → Config)
    (h : (s.setPhase task phase).phases other = .running loaded callback) :
    s.phases other = .running loaded callback := by
  have hne : other ≠ task := by
    rintro rfl
    dsimp only [ConfigTransactions.setPhase] at h
    rw [Function.update_self] at h
    exact hphase loaded callback h
  dsimp only [ConfigTransactions.setPhase] at h
  rw [Function.update_of_ne hne] at h
  exact h

/-- **Every careful step** keeps the transactions serial. -/
theorem Serial.step (h : Serial toVec first callbacks s)
    (hstep : CarefulTransactionStep toVec s event s') :
    Serial toVec first (callbacks ++ event.succeeded.toList) s' := by
  obtain ⟨hstep, hcareful⟩ := hstep
  cases hstep with
  | lock _ _ =>
    refine h.quiet rfl rfl fun task loaded callback hphase => ?_
    dsimp only [ConfigTransactions.setLock] at hphase
    split at hphase
    · exact hphase
    · cases hphase
  | @loaded task callback _ _ =>
    show Serial toVec first (callbacks ++ []) _
    rw [List.append_nil]
    obtain ⟨order, hperm, hfold, hpasses⟩ := h
    refine ⟨order, hperm, hfold, fun other loaded' callback' hphase => ?_⟩
    by_cases hsame : other = task
    · subst hsame
      dsimp only [ConfigTransactions.setPhase] at hphase
      rw [Function.update_self] at hphase
      obtain ⟨rfl, rfl⟩ := TransactionPhase.running.inj hphase
      rw [← hfold]
      exact .self _ _ _
    · dsimp only [ConfigTransactions.setPhase] at hphase
      rw [Function.update_of_ne hsame] at hphase
      exact hpasses other loaded' callback' hphase
  | @saved task loaded callback hrunning hdiffers =>
    -- the stored configuration is the one loaded, so the callback takes its place at the end
    have hstored : s.config = loaded := hcareful loaded callback hrunning
    obtain ⟨order, hperm, hfold, hpasses⟩ := h
    refine ⟨order ++ [callback], hperm.append_right [callback], ?_,
      fun other loaded' callback' hphase => ?_⟩
    · rw [List.foldl_append, hfold, List.foldl_cons, List.foldl_nil, runCallback, hstored,
        if_pos hdiffers]
      rfl
    · have hold : { s with config := callback loaded }.phases other
          = .running loaded' callback' :=
        running_of_setPhase (by nofun) other loaded' callback' hphase
      exact (hpasses other loaded' callback' hold).snoc callback
  | @kept task loaded callback hrunning hsame =>
    -- the callback changes nothing where its task has loaded
    obtain ⟨order, hperm, hfold, hpasses⟩ := h
    have hkept : runCallback toVec loaded callback = loaded :=
      if_neg fun hdiffers => hdiffers hsame
    obtain ⟨order', hperm', hfold', hpasses'⟩ :=
      exists_insert (hpasses task loaded callback hrunning) hkept
    refine ⟨order', hperm'.trans (hperm.append_right [callback]), hfold'.trans hfold,
      fun other loaded' callback' hphase => ?_⟩
    exact hpasses' loaded' (hpasses other loaded' callback'
      (running_of_setPhase (by nofun) other loaded' callback' hphase))
  | callbackFailed _ => exact h.quiet rfl rfl (running_of_setPhase nofun)
  | saveFailed _ _ => exact h.quiet rfl rfl (running_of_setPhase nofun)
  | abandonedLoad _ _ => exact hcareful.elim
  | abandonedSave _ => exact hcareful.elim

/-- A transaction that does not succeed leaves the file as it is. -/
theorem config_of_unsuccessful (hstep : ConfigTransactionStep toVec s event s')
    (hfails : event.succeeded = none) : s'.config = s.config := by
  cases hstep with
  | lock _ _ => rfl
  | loaded _ _ => rfl
  | saved _ _ => cases hfails
  | kept _ _ => rfl
  | callbackFailed _ => rfl
  | saveFailed _ _ => rfl
  | abandonedLoad _ _ => rfl
  | abandonedSave _ => rfl

/-- No careful transaction returns early. -/
theorem ne_abandoned_of_step (h : ∀ task, s.phases task ≠ .abandoned)
    (hstep : CarefulTransactionStep toVec s event s') (task : T) :
    s'.phases task ≠ .abandoned := by
  obtain ⟨hstep, hcareful⟩ := hstep
  have hset (other : T) (phase : TransactionPhase Config) (hphase : phase ≠ .abandoned) :
      Function.update s.phases other phase task ≠ .abandoned := by
    rw [Function.update_apply]
    split
    · exact hphase
    · exact h task
  cases hstep with
  | lock _ _ =>
    dsimp only [ConfigTransactions.setLock]
    split
    · exact h task
    · nofun
  | loaded _ _ => exact hset _ _ nofun
  | saved _ _ => exact hset _ _ nofun
  | kept _ _ => exact hset _ _ nofun
  | callbackFailed _ => exact hset _ _ nofun
  | saveFailed _ _ => exact hset _ _ nofun
  | abandonedLoad _ _ => exact hcareful.elim
  | abandonedSave _ => exact hcareful.elim

/-! ### Runs -/

/-- **A free lock**, and no transaction: how a process starts. -/
structure ConfigTransactions.Starting (s : ConfigTransactions Config T) : Prop where
  lock : s.lock.Starting
  holder : (s.lock.processes ()).processLockHolderId = none
  lockDir : s.lock.lockDir = none
  phases : ∀ task, s.phases task = .waiting

theorem Held.of_starting (h : start.Starting) : Held start.lock where
  counted := fun process => by
    refine ⟨∅, fun task => ?_, ?_⟩
    · rw [h.lock.tasks]
      simp
    · rw [h.lock.counts]
      exact Nat.zero_le _
  holder hholder := by
    rw [h.holder] at hholder
    cases hholder
  dir hdir := by
    rw [h.lockDir] at hdir
    cases hdir

/-- **Every careful run** holds the lock as it counts it, returns early from no transaction, and is
serial. -/
theorem held_of_run (hstart : start.Starting)
    (hrun : Trace (CarefulTransactionStep toVec) start events s) :
    Held s.lock ∧ (∀ task, s.phases task ≠ .abandoned) ∧
      Serial toVec start.config (events.filterMap ConfigTransactionEvent.succeeded) s := by
  induction hrun with
  | nil =>
    refine ⟨.of_starting hstart, fun task => ?_, [], .refl _, rfl, fun task _ _ hphase => ?_⟩
    · rw [hstart.phases]
      nofun
    · rw [hstart.phases] at hphase
      cases hphase
  | @snoc _ t _ event _ hlast ih =>
    obtain ⟨hheld, hpresent, hserial⟩ := ih
    refine ⟨?_, ne_abandoned_of_step hpresent hlast, ?_⟩
    · obtain ⟨hstep, hcareful⟩ := hlast
      cases hstep with
      | lock hstep _ => exact hheld.step hstep hcareful.1 hcareful.2
      | loaded _ _ => exact hheld
      | saved _ _ => exact hheld
      | kept _ _ => exact hheld
      | callbackFailed _ => exact hheld
      | saveFailed _ _ => exact hheld
      | abandonedLoad _ _ => exact hheld
      | abandonedSave _ => exact hheld
    · rw [List.filterMap_append, List.filterMap_cons]
      have hnext := hserial.step hlast
      cases hsucceeded : event.succeeded with
      | none =>
        rw [hsucceeded] at hnext
        exact hnext
      | some callback =>
        rw [hsucceeded] at hnext
        exact hnext

/-- **Isolation and release.**  In every careful run the stored configuration is that of the
successful callbacks in some order, a transaction that does not succeed leaves the file as it is,
and once all have returned the lock is free. -/
theorem transactions_isolated (hstart : start.Starting)
    (hrun : Trace (CarefulTransactionStep toVec) start events s) :
    (∃ order : List (Config → Config),
        order.Perm (events.filterMap ConfigTransactionEvent.succeeded) ∧
        s.config = order.foldl (runCallback toVec) start.config) ∧
      (∀ event s', ConfigTransactionStep toVec s event s' → event.succeeded = none →
        s'.config = s.config) ∧
      ((∀ task, s.Returned task) → s.lock.refCount () = 0 ∧
        (s.lock.processes ()).processLockHolderId = none ∧ s.lock.lockDir = none) := by
  obtain ⟨hheld, hpresent, order, hperm, hfold, _⟩ := held_of_run hstart hrun
  refine ⟨⟨order, hperm, hfold.symm⟩, fun event s' => config_of_unsuccessful,
    fun hreturned => hheld.free fun task => ?_⟩
  exact (hreturned task).resolve_right (hpresent task)

end

/-! ### Runs of two tasks -/

/-- A free lock and an empty configuration, which is a list of names here. -/
def restingConfig : ConfigTransactions (List String) Bool where
  lock :=
    { now := 0
      lockDir := none
      processes := fun _ => { processLockHolderId := none, processLockRefCount := 0 }
      tasks := fun _ => .outside }
  config := []
  phases _ := .waiting

theorem restingConfig_starting : restingConfig.Starting :=
  ⟨⟨fun _ => rfl, fun _ => rfl⟩, rfl, rfl, fun _ => rfl⟩

/-- The callback that adds a name. -/
def addName (name : String) (config : List String) : List String := name :: config

/-- A transaction from its acquisition to its release. -/
theorem transactions_isolated_sample :
    ∃ s : ConfigTransactions (List String) Bool,
      (∃ order : List (List String → List String), order.Perm [addName "a"] ∧
        s.config = order.foldl (runCallback id) []) ∧
      s.lock.refCount () = 0 ∧ s.lock.lockDir = none := by
  have hrun : Trace (CarefulTransactionStep id) restingConfig [] restingConfig := .nil
  have hstarted := hrun.snoc ⟨.lock (@LockStep.started _ _ _ _ _ ((), true) "holder" rfl rfl)
    nofun, by rintro ⟨_, ⟨⟩, _⟩, nofun⟩
  have hmade := hstarted.snoc ⟨.lock (@LockStep.made _ _ _ _ _ ((), true) _ _ rfl rfl) nofun,
    by rintro ⟨_, ⟨⟩, _⟩, nofun⟩
  have hwrote := hmade.snoc ⟨.lock (@LockStep.wrote _ _ _ _ _ ((), true) _ _ rfl rfl) nofun,
    by rintro ⟨_, ⟨⟩, _⟩, nofun⟩
  have hacquired := hwrote.snoc ⟨.lock (@LockStep.acquired _ _ _ _ _ ((), true) _ rfl) nofun,
    by rintro ⟨_, ⟨⟩, _⟩, nofun⟩
  have hloaded := hacquired.snoc ⟨@ConfigTransactionStep.loaded _ _ _ _ _ _ true
    (addName "a") rfl rfl, trivial⟩
  have hsaved := hloaded.snoc ⟨@ConfigTransactionStep.saved _ _ _ _ _ _ true _ _ rfl
    (by decide), fun loaded callback hphase => by
      obtain ⟨rfl, _⟩ := TransactionPhase.running.inj hphase
      rfl⟩
  have hreleased := hsaved.snoc ⟨.lock (@LockStep.released _ _ _ _ _ ((), true) _ rfl rfl rfl)
    fun task htask => by
      obtain rfl := LockEvent.released.inj htask
      exact ⟨true, rfl⟩, by rintro ⟨_, ⟨⟩, _⟩, nofun⟩
  have hremoved := hreleased.snoc ⟨.lock (@LockStep.removed _ _ _ _ _ ((), true) rfl) nofun,
    by rintro ⟨_, ⟨⟩, _⟩, nofun⟩
  obtain ⟨hserial, _, hfree⟩ := transactions_isolated restingConfig_starting hremoved
  have hreturned := hfree fun task => Or.inl (by cases task <;> rfl)
  exact ⟨_, hserial, hreturned.1, hreturned.2.2⟩

/-- **Two transactions at once, and an early return.**  The second task enters while the first one
is in its callback, both have loaded the same, and what the first one has saved is lost.  And when
the configuration does not load, the transaction is back with its lock still counted, its directory
there and its heartbeat running. -/
theorem transactions_interfere :
    (∃ events, ∃ s : ConfigTransactions (List String) Bool,
      Trace (ConfigTransactionStep id) restingConfig events s ∧
      events.filterMap ConfigTransactionEvent.succeeded = [addName "a", addName "b"] ∧
      s.config = ["b"]) ∧
    ∃ events, ∃ s : ConfigTransactions (List String) Bool,
      Trace (ConfigTransactionStep id) restingConfig events s ∧ (∀ task, s.Returned task) ∧
      s.lock.refCount () = 1 ∧ (s.lock.processes ()).processLockHolderId = some "holder" ∧
      s.lock.lockDir.isSome = true := by
  have hrun : Trace (ConfigTransactionStep id) restingConfig [] restingConfig := .nil
  have hstarted := hrun.snoc (.lock (@LockStep.started _ _ _ _ _ ((), true) "holder" rfl rfl) nofun)
  have hmade := hstarted.snoc (.lock (@LockStep.made _ _ _ _ _ ((), true) _ _ rfl rfl) nofun)
  have hwrote := hmade.snoc (.lock (@LockStep.wrote _ _ _ _ _ ((), true) _ _ rfl rfl) nofun)
  have hacquired := hwrote.snoc (.lock (@LockStep.acquired _ _ _ _ _ ((), true) _ rfl) nofun)
  constructor
  · have hloaded := hacquired.snoc (@ConfigTransactionStep.loaded _ _ _ _ _ _ true
      (addName "a") rfl rfl)
    have hentered := hloaded.snoc (.lock (@LockStep.entered _ _ _ _ _ ((), false) _ rfl rfl
      Nat.one_pos) nofun)
    have hloads := hentered.snoc (@ConfigTransactionStep.loaded _ _ _ _ _ _ false
      (addName "b") rfl rfl)
    have hfirst := hloads.snoc (@ConfigTransactionStep.saved _ _ _ _ _ _ true _ _ rfl (by decide))
    have hsecond := hfirst.snoc (@ConfigTransactionStep.saved _ _ _ _ _ _ false _ _ rfl
      (by decide))
    exact ⟨_, _, hsecond, rfl, rfl⟩
  · have hreturns := hacquired.snoc (@ConfigTransactionStep.abandonedLoad _ _ _ _ _ _ true rfl rfl)
    refine ⟨_, _, hreturns, fun task => ?_, rfl, rfl, rfl⟩
    cases task with
    | false => exact .inl rfl
    | true => exact .inr rfl

end QuadraA.CliRs
