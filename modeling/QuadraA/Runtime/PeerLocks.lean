import QuadraA.Lib.LockChain
import QuadraA.Lib.Trace

/-!
# The locks of a peer

The mutexes of `daemon-server.ts` and the sections that its operations run under them.  A section
calls other mutexes and awaits these calls.

* `MutexStep` — what a section of any of the mutexes does;
* `asyncMutex_fair` — sections of one mutex run one at a time in the order of their calls, one that
  fails blocks none, and no operations of the daemon wait for each other in a circle.
-/

namespace QuadraA.Runtime

open QuadraA.Lib Relation

/-! ### Mutexes -/

/-- The mutexes that a section still calls, one after the other, with the operations it gives. -/
inductive LockProgram (κ : Type) where
  | done
  | runExclusive (mutex : κ) (operation rest : LockProgram κ)

/-- A section, with the last call it has made: it goes on when that call has settled. -/
structure LockSection (κ : Type) where
  awaited : Option ℕ
  rest : LockProgram κ

/-- **The mutexes**: the `tail` of each is the promise of its last call, and the promise of a call
is resolved when its section has settled. -/
abbrev AsyncMutexes (κ : Type) := LockChains κ (LockSection κ)

inductive Outcome where
  | returned
  | threw
  | rejected

section

set_option linter.unusedSectionVars false

variable {κ : Type} [DecidableEq κ]

/-- **What a section does**, by its number.  `calls` are the calls from outside of any section. -/
inductive MutexStep (calls : κ → LockProgram κ → Prop) (s : AsyncMutexes κ) :
    ℕ → AsyncMutexes κ → Prop
  | runExclusive {mutex : κ} {operation : LockProgram κ} :
      calls mutex operation → MutexStep calls s s.count (s.call mutex ⟨none, operation⟩)
  | nested {i : ℕ} {key mutex : κ} {previous awaited : Option ℕ} {operation rest : LockProgram κ} :
      s.calls i = some ⟨key, previous, .inside ⟨awaited, .runExclusive mutex operation rest⟩⟩ →
      (∀ j, awaited = some j → s.Left j) →
      MutexStep calls s i ((s.setPhase i key previous (.inside ⟨some s.count, rest⟩)).call mutex
        ⟨none, operation⟩)
  /-- `await previous.catch(…)`. -/
  | started {i : ℕ} {key : κ} {previous : Option ℕ} {body : LockSection κ} :
      s.calls i = some ⟨key, previous, .waiting body⟩ → (∀ j, previous = some j → s.Left j) →
      MutexStep calls s i (s.setPhase i key previous (.inside body))
  /-- `finally`: whatever the operation has left undone and however it ends, at once or later. -/
  | settled (outcome : Outcome) {i : ℕ} {key : κ} {previous : Option ℕ} {body : LockSection κ} :
      s.calls i = some ⟨key, previous, .inside body⟩ → (∀ j, body.awaited = some j → s.Left j) →
      MutexStep calls s i (s.setPhase i key previous .left)

/-- **Awaited promises**: the tail that a call has found, and the call that a section has made. -/
inductive WaitsFor (s : AsyncMutexes κ) (i j : ℕ) : Prop
  | mutex {key : κ} {body : LockSection κ} :
      s.calls i = some ⟨key, some j, .waiting body⟩ → ¬ s.Left j → WaitsFor s i j
  | awaited {key : κ} {previous : Option ℕ} {rest : LockProgram κ} :
      s.calls i = some ⟨key, previous, .inside ⟨some j, rest⟩⟩ → ¬ s.Left j → WaitsFor s i j

variable {calls : κ → LockProgram κ → Prop} {s s' : AsyncMutexes κ} {i : ℕ}

theorem chained_of_step (h : Chained s) (hstep : MutexStep calls s i s') : Chained s' := by
  cases hstep with
  | runExclusive => exact h.call _ _
  | nested hi => exact (h.setPhase hi nofun (h.turn _ _ hi nofun)).call _ _
  | started hi hresolved => exact h.setPhase hi nofun (h.turn_of_resolved hi hresolved)
  | settled _ hi => exact h.setPhase hi nofun (h.turn _ _ hi nofun)

/-! ### Ranks -/

variable (rank : κ → ℕ)

/-- Only mutexes from a rank on are called, and inside of a section only those above its own. -/
def LockProgram.Above : ℕ → LockProgram κ → Prop
  | _, .done => True
  | lowest, .runExclusive mutex operation rest =>
      lowest ≤ rank mutex ∧ operation.Above (rank mutex + 1) ∧ rest.Above lowest

/-- What a section of a mutex calls is above it. -/
structure SectionAbove (s : AsyncMutexes κ) (key : κ) (body : LockSection κ) : Prop where
  rest : body.rest.Above rank (rank key + 1)
  awaited : ∀ j, body.awaited = some j → ∃ call, s.calls j = some call ∧ rank key < rank call.key

/-- **The invariant of nested sections.** -/
structure Nested (s : AsyncMutexes κ) : Prop where
  chained : Chained s
  above : ∀ i call body, s.calls i = some call →
    call.phase = .waiting body ∨ call.phase = .inside body → SectionAbove rank s call.key body

variable {rank} {key : κ} {previous : Option ℕ} {phase phase' : ChainPhase (LockSection κ)}
  {body : LockSection κ}

/-- A change of phase keeps the mutexes of the calls. -/
theorem SectionAbove.setPhase {key' : κ} (h : SectionAbove rank s key' body)
    (hi : s.calls i = some ⟨key, previous, phase⟩) :
    SectionAbove rank (s.setPhase i key previous phase') key' body := by
  refine ⟨h.rest, fun j hj => ?_⟩
  obtain ⟨call, hcall, hlt⟩ := h.awaited j hj
  by_cases hji : j = i
  · subst hji
    rw [hi] at hcall
    cases hcall
    exact ⟨_, Function.update_self .., hlt⟩
  · exact ⟨call, (Function.update_of_ne hji _ _).trans hcall, hlt⟩

theorem Nested.setPhase (h : Nested rank s) (hi : s.calls i = some ⟨key, previous, phase⟩)
    (hchained : Chained (s.setPhase i key previous phase'))
    (habove : ∀ body, phase' = .waiting body ∨ phase' = .inside body →
      SectionAbove rank s key body) :
    Nested rank (s.setPhase i key previous phase') := by
  refine ⟨hchained, fun j call body hj hphase => ?_⟩
  rcases LockChains.calls_setPhase hj with ⟨rfl, rfl⟩ | ⟨_, hj⟩
  · exact (habove body hphase).setPhase hi
  · exact (h.above j call body hj hphase).setPhase hi

/-- Another call changes nothing for the calls that are there. -/
theorem SectionAbove.call (h : SectionAbove rank s key body) (hchained : Chained s) (mutex : κ)
    (operation : LockSection κ) : SectionAbove rank (s.call mutex operation) key body := by
  refine ⟨h.rest, fun j hj => ?_⟩
  obtain ⟨call, hcall, hlt⟩ := h.awaited j hj
  have hne : j ≠ s.count := Nat.ne_of_lt (hchained.fresh j call hcall)
  exact ⟨call, (Function.update_of_ne hne _ _).trans hcall, hlt⟩

theorem Nested.call (h : Nested rank s) {mutex : κ} {operation : LockProgram κ}
    (habove : operation.Above rank (rank mutex + 1)) :
    Nested rank (s.call mutex ⟨none, operation⟩) := by
  refine ⟨h.chained.call _ _, fun j call body hj hphase => ?_⟩
  rcases update_apply_eq_iff.mp hj with ⟨_, hnew⟩ | ⟨_, hj⟩
  · obtain rfl := Option.some.inj hnew
    rcases hphase with hphase | hphase
    · cases hphase
      exact ⟨habove, nofun⟩
    · cases hphase
  · exact (h.above j call body hj hphase).call h.chained _ _

/-- **Every step keeps the ranks.** -/
theorem Nested.step (h : Nested rank s)
    (hcalls : ∀ mutex operation, calls mutex operation → operation.Above rank (rank mutex + 1))
    (hstep : MutexStep calls s i s') : Nested rank s' := by
  have hchained := chained_of_step h.chained hstep
  cases hstep with
  | runExclusive hcall => exact h.call (hcalls _ _ hcall)
  | @nested i key mutex previous awaited operation rest hi =>
    obtain ⟨hrank, hoperation, hrest⟩ := (h.above i _ _ hi (.inr rfl)).rest
    have hfresh := h.chained.fresh i _ hi
    have hphase : Chained (s.setPhase i key previous (.inside ⟨some s.count, rest⟩)) :=
      h.chained.setPhase hi nofun (h.chained.turn _ _ hi nofun)
    refine ⟨hchained, fun j call body hj hbody => ?_⟩
    rcases update_apply_eq_iff.mp hj with ⟨_, hnew⟩ | ⟨_, hj⟩
    · obtain rfl := Option.some.inj hnew
      rcases hbody with hbody | hbody
      · cases hbody
        exact ⟨hoperation, nofun⟩
      · cases hbody
    · rcases LockChains.calls_setPhase hj with ⟨rfl, rfl⟩ | ⟨_, hj⟩
      · rcases hbody with hbody | hbody
        · cases hbody
        · -- the section awaits the call that it makes
          cases hbody
          refine ⟨hrest, fun k hk => ?_⟩
          obtain rfl := Option.some.inj hk
          exact ⟨_, Function.update_self .., hrank⟩
      · exact ((h.above j call body hj hbody).setPhase hi).call hphase _ _
  | started hi =>
    refine h.setPhase hi hchained fun body hbody => h.above _ _ body hi ?_
    rcases hbody with hbody | hbody
    · cases hbody
    · cases hbody
      exact Or.inl rfl
  | settled _ hi =>
    refine h.setPhase hi hchained fun body hbody => ?_
    rcases hbody with hbody | hbody <;> cases hbody

/-! ### Waiting -/

/-- **The weight** of a section: first its rank, from above, then its turn. -/
def weight (rank : κ → ℕ) (highest : ℕ) (s : AsyncMutexes κ) (i : ℕ) : ℕ :=
  match s.calls i with
  | some call => (highest - rank call.key) * s.count + i
  | none => 0

theorem weight_of_calls {call : ChainCall κ (LockSection κ)} (highest : ℕ)
    (hi : s.calls i = some call) :
    weight rank highest s i = (highest - rank call.key) * s.count + i := by
  rw [weight, hi]

/-- **What a section waits for has less weight.** -/
theorem Nested.weight_lt (h : Nested rank s) {highest j : ℕ} (hrank : ∀ key, rank key < highest)
    (hwait : WaitsFor s i j) : weight rank highest s j < weight rank highest s i := by
  cases hwait with
  | mutex hi =>
    obtain ⟨hlt, ⟨call, hj, hkey⟩, _⟩ := h.chained.link i _ j hi rfl
    rw [weight_of_calls highest hi, weight_of_calls highest hj, hkey]
    exact Nat.add_lt_add_left hlt _
  | @awaited key previous rest hi =>
    obtain ⟨call, hj, hlt⟩ := (h.above i _ _ hi (.inr rfl)).awaited j rfl
    have hfresh := h.chained.fresh j call hj
    have hhighest := hrank call.key
    have hmul : (highest - rank call.key + 1) * s.count ≤ (highest - rank key) * s.count :=
      Nat.mul_le_mul_right _ (by dsimp only at hlt; omega)
    rw [weight_of_calls highest hi, weight_of_calls highest hj]
    rw [Nat.succ_mul] at hmul
    dsimp only
    omega

/-- **No circle** of sections that wait for each other. -/
theorem Nested.acyclic (h : Nested rank s) {highest : ℕ} (hrank : ∀ key, rank key < highest) :
    ¬ TransGen (WaitsFor s) i i := by
  intro hcircle
  have hlt {j : ℕ} (hwait : TransGen (WaitsFor s) i j) :
      weight rank highest s j < weight rank highest s i := by
    induction hwait with
    | single hwait => exact h.weight_lt hrank hwait
    | tail _ hwait ih => exact Nat.lt_trans (h.weight_lt hrank hwait) ih
  exact absurd (hlt hcircle) (Nat.lt_irrefl _)

/-- **A section that waits, waits for one that can go on.** -/
theorem Nested.can_move (h : Nested rank s) {highest : ℕ} (hrank : ∀ key, rank key < highest)
    {call : ChainCall κ (LockSection κ)} (hi : s.calls i = some call) (hleft : ¬ s.Left i) :
    ∃ j s', ReflTransGen (WaitsFor s) i j ∧ MutexStep calls s j s' := by
  induction hweight : weight rank highest s i using Nat.strong_induction_on generalizing i call with
  | _ _ ih =>
  subst hweight
  -- the section that is waited for has been called, and has less weight
  have hnext {j : ℕ} {call' : ChainCall κ (LockSection κ)} (hwait : WaitsFor s i j)
      (hj : s.calls j = some call') (hleft : ¬ s.Left j) :
      ∃ j s', ReflTransGen (WaitsFor s) i j ∧ MutexStep calls s j s' := by
    obtain ⟨k, s', hreach, hstep⟩ := ih _ (h.weight_lt hrank hwait) hj hleft rfl
    exact ⟨k, s', hreach.head hwait, hstep⟩
  obtain ⟨key, previous, phase⟩ := call
  cases phase with
  | waiting body =>
    by_cases hresolved : ∀ j, previous = some j → s.Left j
    · exact ⟨i, _, .refl, .started hi hresolved⟩
    · push Not at hresolved
      obtain ⟨j, rfl, hleft⟩ := hresolved
      obtain ⟨_, ⟨call, hj, _⟩, _⟩ := h.chained.link i _ j hi rfl
      exact hnext (.mutex hi hleft) hj hleft
  | inside body =>
    obtain ⟨awaited, rest⟩ := body
    by_cases hresolved : ∀ j, awaited = some j → s.Left j
    · exact ⟨i, _, .refl, .settled .returned hi hresolved⟩
    · push Not at hresolved
      obtain ⟨j, rfl, hleft⟩ := hresolved
      obtain ⟨call, hj, _⟩ := (h.above i _ _ hi (.inr rfl)).awaited j rfl
      exact hnext (.awaited hi hleft) hj hleft
  | left => exact absurd ⟨key, previous, hi⟩ hleft

end

/-! ### The daemon -/

inductive DaemonLock where
  | session (peerDid : String)
  | send (peerDid : String)
  | preKeyMaintenance
  deriving DecidableEq

/-- The send lock comes after the session lock. -/
def DaemonLock.rank : DaemonLock → ℕ
  | .session _ | .preKeyMaintenance => 0
  | .send _ => 1

def withPeerSendLock (peerDid : String) : LockProgram DaemonLock :=
  .runExclusive (.send peerDid) .done .done

def sendSessionReset (peerDid : String) : LockProgram DaemonLock := withPeerSendLock peerDid

def sendSessionResetAck (peerDid : String) : LockProgram DaemonLock := withPeerSendLock peerDid

/-- **The calls of the operations of the daemon**, in any number and at any time.  A message of
another protocol takes no lock. -/
inductive DaemonCall : DaemonLock → LockProgram DaemonLock → Prop
  | handleSend (peerDid : String) : DaemonCall (.session peerDid) (withPeerSendLock peerDid)
  | replayOutboundMessages (peerDid : String) :
      DaemonCall (.session peerDid) (withPeerSendLock peerDid)
  | sendPeerRetryNotifications (peerDid : String) :
      DaemonCall (.session peerDid) (withPeerSendLock peerDid)
  | handleIncomingMessage (peerDid : String) : DaemonCall (.session peerDid) .done
  | resendReset (peerDid : String) : DaemonCall (.session peerDid) (sendSessionReset peerDid)
  | acknowledgeReset (peerDid : String) :
      DaemonCall (.session peerDid) (sendSessionResetAck peerDid)
  /-- One for each of the peers. -/
  | handleE2EResetNotify (peer : String) : DaemonCall (.session peer) (sendSessionReset peer)
  | executePreKeyMaintenanceCycle : DaemonCall .preKeyMaintenance .done

/-- The daemon takes its locks in order. -/
theorem DaemonCall.above {mutex : DaemonLock} {operation : LockProgram DaemonLock}
    (h : DaemonCall mutex operation) :
    operation.Above DaemonLock.rank (DaemonLock.rank mutex + 1) := by
  cases h with
  | handleIncomingMessage | executePreKeyMaintenanceCycle => trivial
  | _ => exact ⟨Nat.le_refl 1, trivial, trivial⟩

/-- **The mutex is fair.**  In every run of calls of mutexes, with any operations in them that nest
in any way and end in any way, a call that has started has none before it at its mutex whose
operation has not settled, and one that has only settled ones before it can start.  Where the calls
are those of the daemon, no circle of sections wait for each other, and every section that has not
settled waits, if at all, for one that can go on. -/
theorem asyncMutex_fair {calls : DaemonLock → LockProgram DaemonLock → Prop}
    {s : AsyncMutexes DaemonLock} {labels : List ℕ}
    (hrun : Trace (MutexStep calls) .idle labels s) :
    (∀ i j call call', i < j → s.calls i = some call → s.calls j = some call' →
      call.key = call'.key → (∀ body, call'.phase ≠ .waiting body) → s.Left i) ∧
    (∀ i key previous body, s.calls i = some ⟨key, previous, .waiting body⟩ →
      (∀ j call, j < i → s.calls j = some call → call.key = key → s.Left j) →
      MutexStep calls s i (s.setPhase i key previous (.inside body))) ∧
    ((∀ mutex operation, calls mutex operation → DaemonCall mutex operation) →
      (∀ i, ¬ TransGen (WaitsFor s) i i) ∧
        ∀ i call, s.calls i = some call → ¬ s.Left i →
          ∃ j s', ReflTransGen (WaitsFor s) i j ∧ MutexStep calls s j s') := by
  have hchained : Chained s :=
    Trace.invariant (fun _ s => Chained s) .idle (fun _ h hstep => chained_of_step h hstep) hrun
  refine ⟨fun i j call call' hlt hi hj hkey hgoes =>
      hchained.turn j call' hj hgoes i call hlt hi hkey,
    fun i key previous body hi hleft => .started hi (hchained.can_start hi hleft), fun hcalls => ?_⟩
  have hrank (key : DaemonLock) : key.rank < 2 := by cases key <;> simp [DaemonLock.rank]
  have hnested : Nested DaemonLock.rank s :=
    Trace.invariant (fun _ s => Nested DaemonLock.rank s) ⟨.idle, nofun⟩
      (fun _ h hstep => h.step (fun _ _ hcall => (hcalls _ _ hcall).above) hstep) hrun
  exact ⟨fun i => hnested.acyclic hrank, fun i call hi hleft => hnested.can_move hrank hi hleft⟩

/-- Two sends to one peer: the second waits for the first, which has called its send lock. -/
theorem asyncMutex_fair_sends :
    ∃ s, Trace (MutexStep DaemonCall) .idle [0, 1, 0, 0] s ∧
      (∀ i, ¬ TransGen (WaitsFor s) i i) ∧
      ∃ j s', ReflTransGen (WaitsFor s) 1 j ∧ MutexStep DaemonCall s j s' := by
  have hcalled : Trace (MutexStep DaemonCall) .idle [0, 1] _ :=
    (Trace.nil.snoc (.runExclusive (.handleSend "did:peer"))).snoc
      (.runExclusive (.handleSend "did:peer"))
  have hrun : Trace (MutexStep DaemonCall) .idle [0, 1, 0, 0] _ :=
    (hcalled.snoc (.started (i := 0) rfl nofun)).snoc (.nested (i := 0) rfl nofun)
  obtain ⟨_, _, hdaemon⟩ := asyncMutex_fair hrun
  obtain ⟨hacyclic, hmove⟩ := hdaemon fun _ _ hcall => hcall
  exact ⟨_, hrun, hacyclic, hmove 1 _ rfl (by rintro ⟨_, _, hleft⟩; cases hleft)⟩

end QuadraA.Runtime
