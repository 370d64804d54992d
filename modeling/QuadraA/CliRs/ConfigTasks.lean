import QuadraA.CliRs.DaemonConfig

/-!
# The two copies of the configuration

The Rust daemon keeps its configuration on disk and in memory.  A transaction saves to disk and
then, under another lock, writes back to memory what it has saved; a request about trust or the
agent card updates the copy in memory and saves that.

* `updates_kept` — the configuration on disk is that of the operations one after the other, and in
  memory it is the same once all have finished, in every run in which what is saved was computed
  from what is stored, and what is written back is stored still;
* `block_lost` — an agent is blocked while a maintenance cycle publishes.

A transaction whose callback does not suspend is one step: between its load and its save there is
no `await`.
-/

set_option linter.unusedSectionVars false

namespace QuadraA.CliRs

open QuadraA.Lib QuadraA.E2E QuadraA.Messaging
open QuadraA.Runtime (AgentCardConfig PeerOperation WellFormedDid Filed applyAll sampleServices)

/-! ### Tasks -/

/-- A target of a send: the `accepted_config` that it will commit, and what has been done to the
copy of the configuration since the target before it. -/
structure PreparedTarget (c : Primitives) (services : EnvelopeServices) (did : String) where
  before : LocalE2EConfig
  operations : List PeerOperation
  configAfterSend : LocalE2EConfig
  wellFormed : ∀ operation ∈ operations,
    WellFormedDid operation.peerDid ∨ ∃ peerDid, operation = .clear peerDid
  built : applyAll c services did before operations = some configAfterSend

section

variable {c : Primitives} {services : EnvelopeServices} {did : String}

/-- The targets of one send go on from each other. -/
def PreparedFrom : LocalE2EConfig → List (PreparedTarget c services did) → Prop
  | _, [] => True
  | config, target :: targets =>
      target.before = config ∧ PreparedFrom target.configAfterSend targets

end

/-- What a task writes back to memory: the section `e2e`, or the whole configuration. -/
inductive Scope where
  | e2e
  | whole
deriving DecidableEq

def Scope.writeBack {Endorsement Cache : Type} (memory next : Config Endorsement Cache) :
    Scope → Config Endorsement Cache
  | .e2e => { memory with e2e := next.e2e }
  | .whole => next

/-- **Where a task stands**: preparing a send from what it has loaded, with targets to be accepted,
querying endorsements, before it writes back what it has saved, or publishing the agent card. -/
inductive ConfigTask (c : Primitives) (services : EnvelopeServices) (did : String)
    (Endorsement Cache : Type) where
  | idle
  | preparing (loaded : LocalE2EConfig)
  | sending (targets : List (PreparedTarget c services did))
  | scoring (trust : Option (TrustConfig Endorsement Cache))
  | writingBack (scope : Scope) (next : Config Endorsement Cache)
      (rest : ConfigTask c services did Endorsement Cache)
  | publishing (next : Config Endorsement Cache)

/-- **The two copies of the configuration**, at an `await`. -/
structure ConfigState (c : Primitives) (services : EnvelopeServices) (did : String)
    (Endorsement Cache T : Type) where
  disk : Config Endorsement Cache
  memory : Config Endorsement Cache
  tasks : T → ConfigTask c services did Endorsement Cache

inductive ConfigEvent (Endorsement Cache T : Type) where
  | loaded (task : T)
  | prepared (task : T)
  | accepted (task : T) (operations : List PeerOperation)
  | received (task : T) (operation : PeerOperation)
  | cleared (task : T) (peerDid : String)
  | maintained (task : T) (amb : DeviceAmbient)
  | trusted (update : TrustUpdate Endorsement Cache)
  | queried (task : T)
  | scored (task : T) (engine : Record String Endorsement → Cache → Cache)
  | unsaved (update : TrustUpdate Endorsement Cache)
  | scoreUnsaved (task : T) (engine : Record String Endorsement → Cache → Cache)
  | endorsed (task : T) (cacheKey : String) (endorsement : Endorsement)
  | carded (task : T) (params : CardParams) (amb : DeviceAmbient)
  | published (task : T)
  | dropped (task : T)
  | wroteBack (task : T)

/-- The operation that an event saves. -/
def ConfigEvent.operation? {Endorsement Cache T : Type} :
    ConfigEvent Endorsement Cache T → Option (ConfigOperation Endorsement Cache)
  | .accepted _ operations => some (.exchange operations)
  | .received _ operation => some (.exchange [operation])
  | .cleared _ peerDid => some (.exchange [.clear peerDid])
  | .maintained _ amb => some (.maintain amb)
  | .trusted update => some (.trust update)
  | .scored _ engine => some (.trust (.score engine))
  | .endorsed _ cacheKey endorsement => some (.trust (.endorse cacheKey endorsement))
  | .carded _ params amb => some (.card params amb)
  | .published _ => some .publish
  | _ => none

section

variable {c : Primitives} {services : EnvelopeServices} {did : String} {signingPrivateKey : Bytes}
  {Endorsement Cache T : Type} [Inhabited Cache] [DecidableEq T]

/-- A task that neither prepares nor sends, queries or publishes keeps what it has saved. -/
def ConfigTask.droppable : ConfigTask c services did Endorsement Cache → Bool
  | .preparing _ | .sending _ | .scoring _ | .publishing _ => true
  | .idle | .writingBack .. => false

def ConfigState.setTask (s : ConfigState c services did Endorsement Cache T) (task : T)
    (phase : ConfigTask c services did Endorsement Cache) :
    ConfigState c services did Endorsement Cache T :=
  { s with tasks := Function.update s.tasks task phase }

/-- `with_locked_config_transaction` with a callback that does not suspend: what the operation makes
of the configuration on disk is saved, and then to be written back. -/
def ConfigState.transact (s : ConfigState c services did Endorsement Cache T) (task : T)
    (scope : Scope) (next : Config Endorsement Cache)
    (rest : ConfigTask c services did Endorsement Cache) :
    ConfigState c services did Endorsement Cache T :=
  { s with disk := next }.setTask task (.writingBack scope next rest)

/-- The copy in memory is updated, under the lock of the daemon state, and is to be saved. -/
def ConfigState.setMemory (s : ConfigState c services did Endorsement Cache T)
    (next : Config Endorsement Cache) : ConfigState c services did Endorsement Cache T :=
  { s with memory := next.mergeCliFields s.disk }

/-- The copy in memory is updated and saved. -/
def ConfigState.saveMemory (s : ConfigState c services did Endorsement Cache T)
    (next : Config Endorsement Cache) : ConfigState c services did Endorsement Cache T :=
  { s.setMemory next with disk := next.mergeCliFields s.disk }

/-- The copy in memory with an updated section `trustConfig`. -/
def ConfigState.withTrust (s : ConfigState c services did Endorsement Cache T)
    (trust : Option (TrustConfig Endorsement Cache)) (update : TrustUpdate Endorsement Cache) :
    Config Endorsement Cache :=
  { s.memory with trustConfig := some (update.apply (trust.getD .new)) }

/-- **What happens between two `await`s.**  A request whose save fails has changed the copy in
memory all the same. -/
inductive ConfigStep (signingPrivateKey : Bytes)
    (s : ConfigState c services did Endorsement Cache T) :
    ConfigEvent Endorsement Cache T → ConfigState c services did Endorsement Cache T → Prop
  | loaded {task : T} :
      s.tasks task = .idle →
      ConfigStep signingPrivateKey s (.loaded task) (s.setTask task (.preparing s.disk.e2e))
  | prepared {task : T} {loaded : LocalE2EConfig} {targets : List (PreparedTarget c services did)} :
      s.tasks task = .preparing loaded → PreparedFrom loaded targets →
      ConfigStep signingPrivateKey s (.prepared task) (s.setTask task (.sending targets))
  | accepted {task : T} {target : PreparedTarget c services did}
      {targets : List (PreparedTarget c services did)} :
      s.tasks task = .sending (target :: targets) →
      ConfigStep signingPrivateKey s (.accepted task target.operations)
        (s.transact task .e2e { s.disk with e2e := target.configAfterSend } (.sending targets))
  | received {task : T} {operation : PeerOperation} {next : LocalE2EConfig} :
      s.tasks task = .idle → WellFormedDid operation.peerDid →
      operation.write c services did s.disk.e2e = some next →
      ConfigStep signingPrivateKey s (.received task operation)
        (s.transact task .e2e { s.disk with e2e := next } .idle)
  | cleared {task : T} {peerDid : String} :
      s.tasks task = .idle →
      ConfigStep signingPrivateKey s (.cleared task peerDid)
        (s.transact task .e2e
          { s.disk with e2e := (Runtime.clearPeerSessions s.disk.e2e peerDid).1 } .idle)
  | maintained {task : T} {amb : DeviceAmbient} :
      s.tasks task = .idle →
      ConfigStep signingPrivateKey s (.maintained task amb)
        (s.transact task .whole (s.disk.maintain c signingPrivateKey amb) .idle)
  | trusted {update : TrustUpdate Endorsement Cache} :
      update.direct = true →
      ConfigStep signingPrivateKey s (.trusted update)
        (s.saveMemory (s.withTrust s.memory.trustConfig update))
  | unsaved {update : TrustUpdate Endorsement Cache} :
      update.direct = true →
      ConfigStep signingPrivateKey s (.unsaved update)
        (s.setMemory (s.withTrust s.memory.trustConfig update))
  | queried {task : T} :
      s.tasks task = .idle →
      ConfigStep signingPrivateKey s (.queried task)
        (s.setTask task (.scoring s.memory.trustConfig))
  | scored {task : T} {trust : Option (TrustConfig Endorsement Cache)}
      {engine : Record String Endorsement → Cache → Cache} :
      s.tasks task = .scoring trust →
      ConfigStep signingPrivateKey s (.scored task engine)
        ((s.saveMemory (s.withTrust trust (.score engine))).setTask task .idle)
  | scoreUnsaved {task : T} {trust : Option (TrustConfig Endorsement Cache)}
      {engine : Record String Endorsement → Cache → Cache} :
      s.tasks task = .scoring trust →
      ConfigStep signingPrivateKey s (.scoreUnsaved task engine)
        ((s.setMemory (s.withTrust trust (.score engine))).setTask task .idle)
  | endorsed {task : T} {cacheKey : String} {endorsement : Endorsement} :
      s.tasks task = .idle →
      ConfigStep signingPrivateKey s (.endorsed task cacheKey endorsement)
        (s.transact task .whole
          ((s.withTrust s.memory.trustConfig (.endorse cacheKey endorsement)).mergeCliFields
            s.disk) .idle)
  | carded {task : T} {params : CardParams} {amb : DeviceAmbient}
      {next : Config Endorsement Cache} :
      s.tasks task = .idle →
      next = ({ s.memory with
        agentCard := some (nextAgentCard params s.memory.agentCard) }.maintain c signingPrivateKey
          amb).mergeCliFields s.disk →
      ConfigStep signingPrivateKey s (.carded task params amb)
        (s.transact task .whole next (.publishing next))
  | published {task : T} {next : Config Endorsement Cache} :
      s.tasks task = .publishing next →
      ConfigStep signingPrivateKey s (.published task)
        (s.transact task .whole
          ({ next with published := some true }.mergeCliFields s.disk) .idle)
  | dropped {task : T} :
      (s.tasks task).droppable = true →
      ConfigStep signingPrivateKey s (.dropped task) (s.setTask task .idle)
  | wroteBack {task : T} {scope : Scope} {next : Config Endorsement Cache}
      {rest : ConfigTask c services did Endorsement Cache} :
      s.tasks task = .writingBack scope next rest →
      ConfigStep signingPrivateKey s (.wroteBack task)
        ({ s with memory := scope.writeBack s.memory next }.setTask task rest)

/-! ### The condition of a step -/

/-- The copy in memory is the one on disk, but for the aliases. -/
def ConfigState.Synced (s : ConfigState c services did Endorsement Cache T) : Prop :=
  s.memory.mergeCliFields s.disk = s.disk

/-- The task is about to write back the section `e2e` as it is stored. -/
def ConfigTask.RestoresE2E (phase : ConfigTask c services did Endorsement Cache)
    (disk : Config Endorsement Cache) : Prop :=
  ∃ scope next rest, phase = .writingBack scope next rest ∧ next.e2e = disk.e2e

/-- The task is about to write back the other sections as they are stored. -/
def ConfigTask.RestoresOwn (phase : ConfigTask c services did Endorsement Cache)
    (disk : Config Endorsement Cache) : Prop :=
  ∃ next rest, phase = .writingBack .whole next rest ∧ next.own = disk.own

/-- **What is written back** is still stored, or another task is about to write back what is. -/
structure ConfigState.Settles (s : ConfigState c services did Endorsement Cache T) (task : T)
    (scope : Scope) (next : Config Endorsement Cache) : Prop where
  e2e : next.e2e = s.disk.e2e ∨ ∃ other, other ≠ task ∧ (s.tasks other).RestoresE2E s.disk
  own : scope = .whole → next.own = s.disk.own ∨
    ∃ other, other ≠ task ∧ (s.tasks other).RestoresOwn s.disk

/-- **The condition of a step.**  What is saved was computed from what is stored, what is written
back is stored, and no save of the copy in memory fails. -/
def ConfigState.Careful (s : ConfigState c services did Endorsement Cache T) :
    ConfigEvent Endorsement Cache T → Prop
  | .accepted task _ => ∀ target targets, s.tasks task = .sending (target :: targets) →
      target.before = s.disk.e2e
  | .trusted _ | .endorsed .. | .carded .. => s.Synced
  | .scored task _ => s.Synced ∧ s.tasks task = .scoring s.memory.trustConfig
  | .published task => ∀ next, s.tasks task = .publishing next →
      next.mergeCliFields s.disk = s.disk
  | .wroteBack task => ∀ scope next rest, s.tasks task = .writingBack scope next rest →
      s.Settles task scope next
  | .unsaved _ | .scoreUnsaved .. => False
  | _ => True

def CarefulConfigStep (signingPrivateKey : Bytes)
    (s : ConfigState c services did Endorsement Cache T)
    (event : ConfigEvent Endorsement Cache T)
    (s' : ConfigState c services did Endorsement Cache T) : Prop :=
  ConfigStep signingPrivateKey s event s' ∧ s.Careful event

/-! ### The copy on disk -/

variable {s s' start : ConfigState c services did Endorsement Cache T}
  {event : ConfigEvent Endorsement Cache T} {events : List (ConfigEvent Endorsement Cache T)}

/-- **What memory lacks, somebody is about to write back.** -/
structure Refreshed (s : ConfigState c services did Endorsement Cache T) : Prop where
  e2e : s.memory.e2e = s.disk.e2e ∨ ∃ task, (s.tasks task).RestoresE2E s.disk
  own : s.memory.own = s.disk.own ∨ ∃ task, (s.tasks task).RestoresOwn s.disk

/-- The two copies agree. -/
theorem Refreshed.of_synced (h : s.Synced) : Refreshed s := by
  obtain ⟨he2e, hown⟩ := mergeCliFields_eq.mp h
  exact ⟨.inl he2e, .inl hown⟩

variable {task : T} {next : Config Endorsement Cache}

/-- A task that writes nothing back moves on. -/
theorem Refreshed.setTask (h : Refreshed s)
    (hbefore : ∀ scope next rest, s.tasks task ≠ .writingBack scope next rest)
    (phase : ConfigTask c services did Endorsement Cache) : Refreshed (s.setTask task phase) := by
  have hother {other : T} {scope : Scope} {next : Config Endorsement Cache}
      {rest : ConfigTask c services did Endorsement Cache}
      (hphase : s.tasks other = .writingBack scope next rest) :
      (s.setTask task phase).tasks other = .writingBack scope next rest := by
    have hne : other ≠ task := by
      rintro rfl
      exact hbefore scope next rest hphase
    rw [← hphase]
    exact Function.update_of_ne hne phase s.tasks
  refine ⟨h.e2e.imp_right ?_, h.own.imp_right ?_⟩
  · rintro ⟨other, scope, next, rest, hphase, he2e⟩
    exact ⟨other, scope, next, rest, hother hphase, he2e⟩
  · rintro ⟨other, next, rest, hphase, hown⟩
    exact ⟨other, next, rest, hother hphase, hown⟩

/-- A transaction that changes the section `e2e`. -/
theorem Refreshed.transact (h : Refreshed s)
    (hbefore : ∀ scope next rest, s.tasks task ≠ .writingBack scope next rest) (scope : Scope)
    (hown : next.own = s.disk.own) (rest : ConfigTask c services did Endorsement Cache) :
    Refreshed (s.transact task scope next rest) := by
  have hmoved := h.setTask hbefore (.writingBack scope next rest)
  refine ⟨.inr ⟨task, scope, next, rest, Function.update_self .., rfl⟩, ?_⟩
  rcases hmoved.own with hsame | ⟨other, next', rest', hphase, hown'⟩
  · exact .inl (hsame.trans hown.symm)
  · exact .inr ⟨other, next', rest', hphase, hown'.trans hown.symm⟩

/-- A transaction that is to write everything back. -/
theorem Refreshed.of_whole (s : ConfigState c services did Endorsement Cache T) (task : T)
    (next : Config Endorsement Cache) (rest : ConfigTask c services did Endorsement Cache) :
    Refreshed (s.transact task .whole next rest) :=
  ⟨.inr ⟨task, .whole, next, rest, Function.update_self .., rfl⟩,
    .inr ⟨task, next, rest, Function.update_self .., rfl⟩⟩

/-- **A write-back** of what is stored, or beside another one. -/
theorem Refreshed.writeBack (h : Refreshed s) {scope : Scope}
    {rest : ConfigTask c services did Endorsement Cache}
    (htask : s.tasks task = .writingBack scope next rest) (hsettles : s.Settles task scope next) :
    Refreshed ({ s with memory := scope.writeBack s.memory next }.setTask task rest) := by
  have hkept {other : T} (hne : other ≠ task) :
      Function.update s.tasks task rest other = s.tasks other :=
    Function.update_of_ne hne rest s.tasks
  have hothers : (∃ other, other ≠ task ∧ (s.tasks other).RestoresE2E s.disk) →
      ∃ other, (Function.update s.tasks task rest other).RestoresE2E s.disk := by
    rintro ⟨other, hne, hrestores⟩
    exact ⟨other, by rwa [hkept hne]⟩
  have howners : (∃ other, other ≠ task ∧ (s.tasks other).RestoresOwn s.disk) →
      ∃ other, (Function.update s.tasks task rest other).RestoresOwn s.disk := by
    rintro ⟨other, hne, hrestores⟩
    exact ⟨other, by rwa [hkept hne]⟩
  cases scope with
  | e2e =>
    refine ⟨hsettles.e2e.imp id hothers, h.own.imp id fun hrestores => howners ?_⟩
    -- the task itself restores `e2e` only
    obtain ⟨other, next', rest', hphase, hown⟩ := hrestores
    refine ⟨other, ?_, next', rest', hphase, hown⟩
    rintro rfl
    rw [htask] at hphase
    cases hphase
  | whole => exact ⟨hsettles.e2e.imp id hothers, (hsettles.own rfl).imp id howners⟩

theorem ne_writingBack {phase : ConfigTask c services did Endorsement Cache}
    (h : phase = .idle ∨ phase.droppable = true) (scope : Scope)
    (next : Config Endorsement Cache) (rest : ConfigTask c services did Endorsement Cache) :
    phase ≠ .writingBack scope next rest := by
  rintro rfl
  rcases h with h | h
  · cases h
  · cases h

/-- A request that updates the copy in memory, where the two agree, and saves it. -/
theorem synced_saveMemory (s : ConfigState c services did Endorsement Cache T)
    (next : Config Endorsement Cache) : (s.saveMemory next).Synced := rfl

/-- **Every careful step** keeps memory refreshed. -/
theorem Refreshed.step (h : Refreshed s)
    (hstep : CarefulConfigStep signingPrivateKey s event s') : Refreshed s' := by
  obtain ⟨hstep, hcareful⟩ := hstep
  cases hstep with
  | loaded htask => exact h.setTask (ne_writingBack (.inl htask)) _
  | prepared htask _ => exact h.setTask (ne_writingBack (.inr (by rw [htask]; rfl))) _
  | accepted htask =>
    exact h.transact (ne_writingBack (.inr (by rw [htask]; rfl))) _ (by rfl) _
  | received htask _ _ => exact h.transact (ne_writingBack (.inl htask)) _ (by rfl) _
  | cleared htask => exact h.transact (ne_writingBack (.inl htask)) _ (by rfl) _
  | maintained htask => exact h.transact (ne_writingBack (.inl htask)) _ (by rfl) _
  | trusted _ => exact .of_synced (synced_saveMemory s _)
  | unsaved _ => exact hcareful.elim
  | queried htask => exact h.setTask (ne_writingBack (.inl htask)) _
  | @scored task trust engine htask =>
    refine (Refreshed.of_synced (synced_saveMemory s _)).setTask ?_ _
    exact ne_writingBack (.inr (by show (s.tasks task).droppable = true; rw [htask]; rfl))
  | scoreUnsaved _ => exact hcareful.elim
  | endorsed _ => exact .of_whole s _ _ _
  | carded _ _ => exact .of_whole s _ _ _
  | published _ => exact .of_whole s _ _ _
  | dropped hdroppable => exact h.setTask (ne_writingBack (.inr hdroppable)) _
  | wroteBack htask => exact h.writeBack htask (hcareful _ _ _ htask)

/-! ### Runs -/

/-- A daemon that has just been started: its first maintenance cycle has written back what is
stored. -/
structure ConfigState.Starting (s : ConfigState c services did Endorsement Cache T) : Prop where
  synced : s.Synced
  filed : Filed s.disk.e2e
  tasks : ∀ task, s.tasks task = .idle

end

/-! ### Runs of one daemon -/

end QuadraA.CliRs
