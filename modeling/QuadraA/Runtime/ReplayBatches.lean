import QuadraA.Runtime.PeerRecovery
import QuadraA.Lib.Trace
import Mathlib.Data.List.Sort

/-!
# Replay batches

The debounced replays of `daemon-server.ts`: `schedulePeerReplay` collects the requests of a peer
in a batch and sets a timer, `flushPeerReplay` hands the batch to `replayOutboundMessages`, and a
recovery cancels what is pending.

* `replays_attempted` — nothing is outstanding when no timer is armed and no flush is running, if
  no flush ends before its last request was attempted and none removes a batch with requests;
* `replay_dropped` — otherwise requests are lost.

A batch object is a reference, since a flush may end after its batch was removed from the map and
another one took its place.  Each peer has its own batches, timers and flushes.
-/

namespace QuadraA.Runtime

open QuadraA.Lib

/-! ### Batches -/

structure PendingPeerBatch (N : Type) where
  items : Record String (PendingReplayRequest N)
  timer : Option ℕ
  running : Bool
deriving DecidableEq

/-- A running `flushPeerReplay`: its batch, and the requests that `replayOutboundMessages` has not
come to yet. -/
structure Flush (N : Type) where
  batch : ℕ
  remaining : List (PendingReplayRequest N)
deriving DecidableEq

/-- **The replays of one peer.**  `entry` is what `pendingReplayBatches` holds for it. -/
structure PeerReplays (N : Type) where
  entry : Option ℕ
  batches : ℕ → PendingPeerBatch N
  nextBatch : ℕ
  timers : List ℕ
  nextTimer : ℕ
  flushes : List (Flush N)

section

variable {N : Type}

/-- A peer that has never asked for a replay. -/
def PeerReplays.empty : PeerReplays N where
  entry := none
  batches _ := { items := .empty, timer := none, running := false }
  nextBatch := 0
  timers := []
  nextTimer := 0
  flushes := []

/-- Write one batch object. -/
def PeerReplays.write (s : PeerReplays N) (batch : ℕ) (value : PendingPeerBatch N) :
    PeerReplays N :=
  { s with batches := fun batch' => if batch' = batch then value else s.batches batch' }

@[simp] theorem PeerReplays.batches_write (s : PeerReplays N) (batch batch' : ℕ)
    (value : PendingPeerBatch N) :
    (s.write batch value).batches batch' = if batch' = batch then value else s.batches batch' :=
  rfl

def getOrCreatePeerBatch (s : PeerReplays N) : ℕ × PeerReplays N :=
  match s.entry with
  | some batch => (batch, s)
  | none =>
      (s.nextBatch,
        { s.write s.nextBatch { items := .empty, timer := none, running := false } with
          entry := some s.nextBatch
          nextBatch := s.nextBatch + 1 })

/-- `clearTimeout`, on the handle that a batch holds. -/
def PeerReplays.clearTimeout (s : PeerReplays N) (timer : Option ℕ) : PeerReplays N :=
  { s with timers := s.timers.filter fun armed => timer ≠ some armed }

/-- `batch.timer = setTimeout(..)`. -/
def PeerReplays.setTimeout (s : PeerReplays N) (batch : ℕ) : PeerReplays N :=
  { s.write batch { s.batches batch with timer := some s.nextTimer } with
    timers := s.timers ++ [s.nextTimer]
    nextTimer := s.nextTimer + 1 }

def schedulePeerReplay (s : PeerReplays N) (request : PendingReplayRequest N) : PeerReplays N :=
  let (batch, created) := getOrCreatePeerBatch s
  let value := created.batches batch
  let filed := created.write batch
    { value with items := value.items.set request.lookupMessageId request }
  (filed.clearTimeout value.timer).setTimeout batch

/-- `clearPendingPeerBatch`; the removed object keeps its timer handle. -/
def clearPendingPeerBatch (s : PeerReplays N) : ℕ × PeerReplays N :=
  match s.entry with
  | none => (0, s)
  | some batch =>
      let value := s.batches batch
      let cleared := s.clearTimeout value.timer
      (value.items.keys.length,
        { cleared.write batch { value with items := .empty } with entry := none })

/-- `flushPeerReplay` up to its `await`; the sort is stable. -/
def flushPeerReplay [LinearOrder N] (s : PeerReplays N) : PeerReplays N :=
  match s.entry with
  | none => s
  | some batch =>
      let value := s.batches batch
      if value.running then s
      else
        let requests := value.items.values.insertionSort fun left right =>
          left.requestedAt ≤ right.requestedAt
        let cleared := s.clearTimeout value.timer
        { cleared.write batch { items := .empty, timer := none, running := true } with
          flushes := s.flushes ++ [{ batch, remaining := requests }] }

/-- The flush is over, and its batch is not running any more. -/
def PeerReplays.endFlush [DecidableEq N] (s : PeerReplays N) (flush : Flush N) : PeerReplays N :=
  { s.write flush.batch { s.batches flush.batch with running := false } with
    flushes := s.flushes.erase flush }

/-- The `finally` of `flushPeerReplay`. -/
def PeerReplays.finish [DecidableEq N] (s : PeerReplays N) (flush : Flush N) : PeerReplays N :=
  let value := s.batches flush.batch
  if value.items.entries ≠ [] then (s.endFlush flush).setTimeout flush.batch
  else if value.timer = none then { s.endFlush flush with entry := none }
  else s.endFlush flush

/-- **What a flush does**: nothing, if there is no batch or it is running; else it takes all
requests of the batch. -/
theorem flushPeerReplay_cases [LinearOrder N] (s : PeerReplays N) :
    (flushPeerReplay s = s ∧
        ∀ batch, s.entry = some batch → (s.batches batch).running = true) ∨
      ∃ batch, s.entry = some batch ∧ (s.batches batch).running = false ∧
        flushPeerReplay s
          = { (s.clearTimeout (s.batches batch).timer).write batch
                { items := .empty, timer := none, running := true } with
              flushes := s.flushes ++ [{
                batch
                remaining := (s.batches batch).items.values.insertionSort fun left right =>
                  left.requestedAt ≤ right.requestedAt }] } := by
  rcases Option.eq_none_or_eq_some s.entry with hentry | ⟨batch, hentry⟩
  · refine Or.inl ⟨by rw [flushPeerReplay, hentry], fun batch hsome => ?_⟩
    rw [hentry] at hsome
    cases hsome
  · rcases Bool.eq_false_or_eq_true (s.batches batch).running with hrunning | hrunning
    · refine Or.inl ⟨by simp [flushPeerReplay, hentry, hrunning], fun batch' hsome => ?_⟩
      rw [← Option.some.inj (hentry.symm.trans hsome)]
      exact hrunning
    · exact Or.inr ⟨batch, hentry, hrunning, by simp [flushPeerReplay, hentry, hrunning]⟩

/-- **How a flush ends**: with a new timer, with the map's batch removed, or neither. -/
theorem PeerReplays.finish_cases [DecidableEq N] (s : PeerReplays N) (flush : Flush N) :
    s.finish flush = (s.endFlush flush).setTimeout flush.batch ∨
      (s.batches flush.batch).items.entries = [] ∧
        ((s.batches flush.batch).timer = none ∧
            s.finish flush = { s.endFlush flush with entry := none } ∨
          s.finish flush = s.endFlush flush) := by
  by_cases hitems : (s.batches flush.batch).items.entries = []
  · by_cases htimer : (s.batches flush.batch).timer = none
    · exact Or.inr ⟨hitems, Or.inl ⟨htimer, by simp [PeerReplays.finish, hitems, htimer]⟩⟩
    · exact Or.inr ⟨hitems, Or.inr (by simp [PeerReplays.finish, hitems, htimer])⟩
  · exact Or.inl (by simp [PeerReplays.finish, hitems])

/-! ### Steps -/

inductive ReplayEvent (N : Type) where
  | scheduled (peerDid : String) (request : PendingReplayRequest N)
  | fired (peerDid : String) (timer : ℕ)
  | attempted (peerDid : String) (request : PendingReplayRequest N)
  | finished (peerDid : String) (flush : Flush N)
  | cancelled (peerDid : String)
  | cancelledAll
deriving DecidableEq

/-- **The steps.**  `attempted` is one turn of the loop in `replayOutboundMessages`; a flush that
finishes with requests remaining has thrown, or was not ready to replay. -/
inductive ReplayStep [LinearOrder N] (s : String → PeerReplays N) :
    ReplayEvent N → (String → PeerReplays N) → Prop
  | schedule (peerDid : String) (request : PendingReplayRequest N) :
      ReplayStep s (.scheduled peerDid request)
        (Function.update s peerDid (schedulePeerReplay (s peerDid) request))
  | fire (peerDid : String) {timer : ℕ} :
      timer ∈ (s peerDid).timers →
      ReplayStep s (.fired peerDid timer)
        (Function.update s peerDid (flushPeerReplay
          { s peerDid with timers := (s peerDid).timers.erase timer }))
  | attempt (peerDid : String) {batch : ℕ} {request : PendingReplayRequest N}
      {rest : List (PendingReplayRequest N)} :
      { batch, remaining := request :: rest } ∈ (s peerDid).flushes →
      ReplayStep s (.attempted peerDid request)
        (Function.update s peerDid
          { s peerDid with
            flushes := (s peerDid).flushes.erase { batch, remaining := request :: rest }
              ++ [{ batch, remaining := rest }] })
  | finish (peerDid : String) {flush : Flush N} :
      flush ∈ (s peerDid).flushes →
      ReplayStep s (.finished peerDid flush)
        (Function.update s peerDid ((s peerDid).finish flush))
  | cancel (peerDid : String) :
      ReplayStep s (.cancelled peerDid)
        (Function.update s peerDid (clearPendingPeerBatch (s peerDid)).2)
  | cancelAll : ReplayStep s .cancelledAll fun peerDid => (clearPendingPeerBatch (s peerDid)).2

/-- An event that settles the requests of a peer for a message: an attempt, or a recovery that
cancels them. -/
def ReplayEvent.Settles (peerDid lookupMessageId : String) : ReplayEvent N → Prop
  | .attempted peerDid' request =>
      peerDid' = peerDid ∧ request.lookupMessageId = lookupMessageId
  | .cancelled peerDid' => peerDid' = peerDid
  | .cancelledAll => True
  | _ => False

/-- **An outstanding request**: scheduled, and neither attempted nor cancelled since. -/
def Outstanding (events : List (ReplayEvent N)) (peerDid lookupMessageId : String) : Prop :=
  ∃ earlier request later, events = earlier ++ .scheduled peerDid request :: later ∧
    request.lookupMessageId = lookupMessageId ∧
    ∀ event ∈ later, ¬event.Settles peerDid lookupMessageId

variable {lookupMessageId : String} {s : PeerReplays N} {outstanding outstanding' : String → Prop}
  {request : PendingReplayRequest N} {batch : ℕ}

theorem Outstanding.of_snoc {events : List (ReplayEvent N)} {event : ReplayEvent N}
    {peerDid : String} (h : Outstanding (events ++ [event]) peerDid lookupMessageId) :
    (∃ request, event = .scheduled peerDid request ∧
        request.lookupMessageId = lookupMessageId) ∨
      Outstanding events peerDid lookupMessageId ∧ ¬event.Settles peerDid lookupMessageId := by
  obtain ⟨earlier, request, later, hsplit, hid, hlater⟩ := h
  rcases List.eq_nil_or_concat later with rfl | ⟨front, last, rfl⟩
  · obtain ⟨_, hlast⟩ := List.append_inj' hsplit rfl
    exact Or.inl ⟨request, (List.cons.inj hlast).1, hid⟩
  · rw [List.concat_eq_append, ← List.cons_append, ← List.append_assoc] at hsplit
    obtain ⟨hevents, hlast⟩ := List.append_inj' hsplit rfl
    rw [List.concat_eq_append] at hlater
    obtain rfl := (List.cons.inj hlast).1
    refine Or.inr ⟨⟨earlier, request, front, hevents, hid, fun e he => ?_⟩, ?_⟩
    · exact hlater e (List.mem_append_left _ he)
    · exact hlater _ (List.mem_append_right _ List.mem_cons_self)

/-! ### What a run keeps -/

/-- **The invariant of one peer.**  Requests under the map's batch wait for an armed timer or for
the end of a flush of that batch; and what is outstanding is in that batch, or in a flush. -/
structure PeerReplays.Keeps (s : PeerReplays N) (outstanding : String → Prop) : Prop where
  keyed : ∀ batch lookupMessageId request,
    (s.batches batch).items.get? lookupMessageId = some request →
      request.lookupMessageId = lookupMessageId
  armed : ∀ batch, s.entry = some batch → (s.batches batch).items.entries ≠ [] →
    (s.batches batch).running = false →
      ∃ timer, (s.batches batch).timer = some timer ∧ timer ∈ s.timers
  flushed : ∀ batch, s.entry = some batch → (s.batches batch).running = true →
    ∃ flush ∈ s.flushes, flush.batch = batch
  kept : ∀ lookupMessageId, outstanding lookupMessageId →
    (∃ batch request, s.entry = some batch ∧
      (s.batches batch).items.get? lookupMessageId = some request) ∨
    ∃ flush ∈ s.flushes, ∃ request ∈ flush.remaining, request.lookupMessageId = lookupMessageId

theorem PeerReplays.Keeps.mono (h : s.Keeps outstanding)
    (hout : ∀ id, outstanding' id → outstanding id) : s.Keeps outstanding' :=
  ⟨h.keyed, h.armed, h.flushed, fun id hid => h.kept id (hout id hid)⟩

theorem PeerReplays.Keeps.empty : (PeerReplays.empty : PeerReplays N).Keeps fun _ => False := by
  refine ⟨fun _ _ _ h => ?_, fun _ h => ?_, fun _ h => ?_, fun _ h => h.elim⟩
  · cases h
  · cases h
  · cases h

/-- What a batch reads is one of its entries. -/
theorem entries_ne_nil {items : Record String (PendingReplayRequest N)}
    (h : items.get? lookupMessageId = some request) : items.entries ≠ [] :=
  List.ne_nil_of_mem ((Record.get?_eq_some_iff _ _ _).mp h)

/-- **Idle and complete.**  With no timer armed and no flush running nothing is outstanding. -/
theorem PeerReplays.Keeps.idle (h : s.Keeps outstanding) (htimers : s.timers = [])
    (hflushes : s.flushes = []) (lookupMessageId : String) : ¬outstanding lookupMessageId := by
  intro hout
  rcases h.kept lookupMessageId hout with ⟨batch, request, hentry, hget⟩ | ⟨flush, hmem, _⟩
  · cases hrunning : (s.batches batch).running with
    | true =>
      obtain ⟨flush, hmem, _⟩ := h.flushed batch hentry hrunning
      rw [hflushes] at hmem
      cases hmem
    | false =>
      obtain ⟨timer, _, hmem⟩ := h.armed batch hentry (entries_ne_nil hget) hrunning
      rw [htimers] at hmem
      cases hmem
  · rw [hflushes] at hmem
    cases hmem

/-- **Setting a timer** for a batch is enough for that batch. -/
theorem PeerReplays.keeps_setTimeout
    (hkeyed : ∀ batch' id request, (s.batches batch').items.get? id = some request →
      request.lookupMessageId = id)
    (harmed : ∀ batch', s.entry = some batch' → batch' ≠ batch →
      (s.batches batch').items.entries ≠ [] → (s.batches batch').running = false →
        ∃ timer, (s.batches batch').timer = some timer ∧ timer ∈ s.timers)
    (hflushed : ∀ batch', s.entry = some batch' → (s.batches batch').running = true →
      ∃ flush ∈ s.flushes, flush.batch = batch')
    (hkept : ∀ id, outstanding id →
      (∃ batch' request, s.entry = some batch' ∧
        (s.batches batch').items.get? id = some request) ∨
      ∃ flush ∈ s.flushes, ∃ request ∈ flush.remaining, request.lookupMessageId = id) :
    (s.setTimeout batch).Keeps outstanding := by
  have hsame (batch' : ℕ) : ((s.setTimeout batch).batches batch').items = (s.batches batch').items ∧
      ((s.setTimeout batch).batches batch').running = (s.batches batch').running := by
    simp only [PeerReplays.setTimeout, PeerReplays.batches_write]
    split
    · rename_i heq
      rw [heq]
      exact ⟨rfl, rfl⟩
    · exact ⟨rfl, rfl⟩
  refine ⟨fun batch' id request hget => ?_, fun batch' hentry hitems hidle => ?_,
    fun batch' hentry hrunning => ?_, fun id hout => ?_⟩
  · rw [(hsame batch').1] at hget
    exact hkeyed batch' id request hget
  · rw [(hsame batch').1] at hitems
    rw [(hsame batch').2] at hidle
    simp only [PeerReplays.setTimeout, PeerReplays.batches_write]
    by_cases heq : batch' = batch
    · rw [if_pos heq]
      exact ⟨s.nextTimer, rfl, List.mem_append_right _ List.mem_cons_self⟩
    · rw [if_neg heq]
      obtain ⟨timer, htimer, hmem⟩ := harmed batch' hentry heq hitems hidle
      exact ⟨timer, htimer, List.mem_append_left _ hmem⟩
  · rw [(hsame batch').2] at hrunning
    exact hflushed batch' hentry hrunning
  · rcases hkept id hout with ⟨batch', request, hentry, hget⟩ | hflush
    · exact Or.inl ⟨batch', request, hentry, by rw [(hsame batch').1]; exact hget⟩
    · exact Or.inr hflush

/-- The batch that a schedule files its request in: the map's one, or a new one. -/
theorem PeerReplays.Keeps.create (h : s.Keeps outstanding) :
    (getOrCreatePeerBatch s).2.Keeps outstanding ∧
      (getOrCreatePeerBatch s).2.entry = some (getOrCreatePeerBatch s).1 := by
  rw [getOrCreatePeerBatch]
  cases hentry : s.entry with
  | some batch => exact ⟨h, hentry⟩
  | none =>
    refine ⟨⟨fun batch id request hget => ?_, fun batch hnew hitems => ?_,
      fun batch hnew hrunning => ?_, fun id hout => ?_⟩, rfl⟩
    · simp only [PeerReplays.batches_write] at hget
      split at hget
      · cases hget
      · exact h.keyed batch id request hget
    · obtain rfl := Option.some.inj hnew
      simp [Record.empty] at hitems
    · obtain rfl := Option.some.inj hnew
      simp at hrunning
    · rcases h.kept id hout with ⟨batch, _, hold, _⟩ | hflush
      · rw [hentry] at hold
        cases hold
      · exact Or.inr hflush

/-- **Scheduling** files the request, and arms a timer for it. -/
theorem PeerReplays.Keeps.schedule (h : s.Keeps outstanding) (request : PendingReplayRequest N)
    (hout : ∀ id, outstanding' id → request.lookupMessageId = id ∨ outstanding id) :
    (schedulePeerReplay s request).Keeps outstanding' := by
  obtain ⟨hcreated, hentry⟩ := h.create
  rw [schedulePeerReplay]
  generalize getOrCreatePeerBatch s = found at hcreated hentry ⊢
  obtain ⟨batch, created⟩ := found
  simp only at hcreated hentry ⊢
  have hbatch {batch' : ℕ} (hentry' : created.entry = some batch') : batch' = batch :=
    Option.some.inj (hentry'.symm.trans hentry)
  refine PeerReplays.keeps_setTimeout (fun batch' id request' hget => ?_)
    (fun batch' hentry' hne => absurd (hbatch hentry') hne) (fun batch' hentry' hrunning => ?_)
    fun id hid => ?_
  · simp only [PeerReplays.clearTimeout, PeerReplays.batches_write] at hget
    split at hget
    · rw [Record.get?_set] at hget
      split at hget
      · rw [← Option.some.inj hget]
        assumption
      · exact hcreated.keyed batch id request' hget
    · exact hcreated.keyed batch' id request' hget
  · obtain rfl := hbatch hentry'
    refine hcreated.flushed batch' hentry ?_
    simpa [PeerReplays.clearTimeout] using hrunning
  · simp only [PeerReplays.clearTimeout, PeerReplays.batches_write]
    by_cases hsame : request.lookupMessageId = id
    · exact Or.inl ⟨batch, request, hentry, by rw [if_pos rfl, hsame, Record.get?_set_self]⟩
    · have hold := (hout id hid).resolve_left hsame
      rcases hcreated.kept id hold with ⟨batch', request', hentry', hget⟩ | hflush
      · obtain rfl := hbatch hentry'
        exact Or.inl ⟨batch', request', hentry,
          by rw [if_pos rfl, Record.get?_set_ne _ _ hsame]; exact hget⟩
      · exact Or.inr hflush

/-- **A recovery** cancels what is outstanding. -/
theorem PeerReplays.Keeps.cancel (h : s.Keeps outstanding) (hout : ∀ id, ¬outstanding' id) :
    (clearPendingPeerBatch s).2.Keeps outstanding' := by
  have hkeyed : ∀ batch id request,
      ((clearPendingPeerBatch s).2.batches batch).items.get? id = some request →
        request.lookupMessageId = id := by
    intro batch id request hget
    rw [clearPendingPeerBatch] at hget
    split at hget
    · exact h.keyed batch id request hget
    · simp only [PeerReplays.clearTimeout, PeerReplays.batches_write] at hget
      split at hget
      · cases hget
      · exact h.keyed batch id request hget
  have hentry : (clearPendingPeerBatch s).2.entry = none := by
    rw [clearPendingPeerBatch]
    split
    · assumption
    · rfl
  refine ⟨hkeyed, fun batch hsome => ?_, fun batch hsome => ?_, fun id hid => absurd hid (hout id)⟩
  · rw [hentry] at hsome
    cases hsome
  · rw [hentry] at hsome
    cases hsome

/-- **A timer fires**: the batch is handed to a flush, or is being flushed already. -/
theorem PeerReplays.Keeps.fire [LinearOrder N] (h : s.Keeps outstanding) (timer : ℕ) :
    (flushPeerReplay { s with timers := s.timers.erase timer }).Keeps outstanding := by
  rcases flushPeerReplay_cases { s with timers := s.timers.erase timer } with
    ⟨hflush, hbusy⟩ | ⟨batch, hentry, _, hflush⟩
  · rw [hflush]
    refine ⟨h.keyed, fun batch hentry _ hidle => ?_, h.flushed, h.kept⟩
    rw [hbusy batch hentry] at hidle
    cases hidle
  · rw [hflush]
    have hbatch {batch' : ℕ} (hentry' : s.entry = some batch') : batch' = batch :=
      Option.some.inj (hentry'.symm.trans hentry)
    refine ⟨fun batch' id request hget => ?_, fun batch' hnew hitems => ?_,
      fun batch' hnew _ => ?_, fun id hout => ?_⟩
    · simp only [PeerReplays.clearTimeout, PeerReplays.batches_write] at hget
      split at hget
      · cases hget
      · exact h.keyed batch' id request hget
    · obtain rfl := hbatch hnew
      simp [PeerReplays.clearTimeout, Record.empty] at hitems
    · obtain rfl := hbatch hnew
      exact ⟨_, List.mem_append_right _ List.mem_cons_self, rfl⟩
    · right
      rcases h.kept id hout with ⟨batch', request, hold, hget⟩ | ⟨flush, hmem, hrequest⟩
      · -- the requests of the batch are those of the new flush
        obtain rfl := hbatch hold
        refine ⟨_, List.mem_append_right _ List.mem_cons_self, request, ?_,
          h.keyed batch' id request hget⟩
        rw [List.mem_insertionSort]
        exact (Record.mem_values_iff _ _).mpr ⟨id, hget⟩
      · exact ⟨flush, List.mem_append_left _ hmem, hrequest⟩

/-- **An attempt** settles its request; the flush goes on with those behind it. -/
theorem PeerReplays.Keeps.attempt [DecidableEq N] (h : s.Keeps outstanding)
    {rest : List (PendingReplayRequest N)}
    (hout : ∀ id, outstanding' id → request.lookupMessageId ≠ id ∧ outstanding id) :
    ({ s with
        flushes := s.flushes.erase { batch, remaining := request :: rest }
          ++ [{ batch, remaining := rest }] } : PeerReplays N).Keeps outstanding' := by
  have hothers {flush : Flush N} (hmem : flush ∈ s.flushes)
      (hne : flush ≠ { batch, remaining := request :: rest }) :
      flush ∈ s.flushes.erase { batch, remaining := request :: rest }
        ++ [{ batch, remaining := rest }] :=
    List.mem_append_left _ ((List.mem_erase_of_ne hne).mpr hmem)
  refine ⟨h.keyed, h.armed, fun batch' hentry hrunning => ?_, fun id hid => ?_⟩
  · obtain ⟨flush, hmem, hbatch⟩ := h.flushed batch' hentry hrunning
    by_cases hsame : flush = { batch, remaining := request :: rest }
    · subst hsame
      exact ⟨_, List.mem_append_right _ List.mem_cons_self, hbatch⟩
    · exact ⟨flush, hothers hmem hsame, hbatch⟩
  · obtain ⟨hne, hold⟩ := hout id hid
    rcases h.kept id hold with hpending | ⟨flush, hmem, request', hremaining, hid'⟩
    · exact Or.inl hpending
    · right
      by_cases hsame : flush = { batch, remaining := request :: rest }
      · subst hsame
        rcases List.mem_cons.mp hremaining with rfl | hrest
        · exact absurd hid' hne
        · exact ⟨_, List.mem_append_right _ List.mem_cons_self, request', hrest, hid'⟩
      · exact ⟨flush, hothers hmem hsame, request', hremaining, hid'⟩

/-- The end of a flush that loses no request: its last one was attempted, and the batch that it
removes from the map, which need not be its own, holds none. -/
def PeerReplays.EndsWell (s : PeerReplays N) (flush : Flush N) : Prop :=
  flush.remaining = [] ∧
    ((s.batches flush.batch).items.entries = [] → (s.batches flush.batch).timer = none →
      ∀ batch, s.entry = some batch → (s.batches batch).items.entries = [])

/-- **A flush ends** and sets a timer for what came in meanwhile. -/
theorem PeerReplays.Keeps.finish [DecidableEq N] (h : s.Keeps outstanding) {flush : Flush N}
    (hends : s.EndsWell flush) : (s.finish flush).Keeps outstanding := by
  have hitems (batch : ℕ) :
      ((s.endFlush flush).batches batch).items = (s.batches batch).items := by
    simp only [PeerReplays.endFlush, PeerReplays.batches_write]
    split
    · rename_i hsame
      rw [hsame]
    · rfl
  have hkeyed (batch : ℕ) (id : String) (request : PendingReplayRequest N)
      (hget : ((s.endFlush flush).batches batch).items.get? id = some request) :
      request.lookupMessageId = id := by
    rw [hitems] at hget
    exact h.keyed batch id request hget
  have harmed (batch : ℕ) (hentry : s.entry = some batch) (hne : batch ≠ flush.batch)
      (hsome : ((s.endFlush flush).batches batch).items.entries ≠ [])
      (hidle : ((s.endFlush flush).batches batch).running = false) :
      ∃ timer, ((s.endFlush flush).batches batch).timer = some timer ∧ timer ∈ s.timers := by
    simp only [PeerReplays.endFlush, PeerReplays.batches_write, if_neg hne] at hsome hidle ⊢
    exact h.armed batch hentry hsome hidle
  have hflushed (batch : ℕ) (hentry : s.entry = some batch)
      (hrunning : ((s.endFlush flush).batches batch).running = true) :
      ∃ flush' ∈ s.flushes.erase flush, flush'.batch = batch := by
    simp only [PeerReplays.endFlush, PeerReplays.batches_write] at hrunning
    split at hrunning
    · cases hrunning
    · rename_i hother
      obtain ⟨flush', hmem, hbatch⟩ := h.flushed batch hentry hrunning
      refine ⟨flush', (List.mem_erase_of_ne ?_).mpr hmem, hbatch⟩
      rintro rfl
      exact hother hbatch.symm
  have hkept (id : String) (hout : outstanding id) :
      (∃ batch request, s.entry = some batch ∧
        ((s.endFlush flush).batches batch).items.get? id = some request) ∨
      ∃ flush' ∈ s.flushes.erase flush, ∃ request ∈ flush'.remaining,
        request.lookupMessageId = id := by
    rcases h.kept id hout with ⟨batch, request, hentry, hget⟩ |
      ⟨flush', hmem, request, hremaining, hid⟩
    · exact Or.inl ⟨batch, request, hentry, by rw [hitems]; exact hget⟩
    · refine Or.inr ⟨flush', (List.mem_erase_of_ne ?_).mpr hmem, request, hremaining, hid⟩
      rintro rfl
      rw [hends.1] at hremaining
      cases hremaining
  rcases s.finish_cases flush with hfinish | ⟨hnone, ⟨htimer, hfinish⟩ | hfinish⟩
  · rw [hfinish]
    exact PeerReplays.keeps_setTimeout hkeyed harmed hflushed hkept
  · -- the map's batch is removed, and nothing was waiting in it
    rw [hfinish]
    refine ⟨hkeyed, fun batch hnew => ?_, fun batch hnew => ?_, fun id hout => ?_⟩
    · cases hnew
    · cases hnew
    · rcases hkept id hout with ⟨batch, request, hentry, hget⟩ | hflush
      · rw [hitems] at hget
        exact absurd (hends.2 hnone htimer batch hentry) (entries_ne_nil hget)
      · exact Or.inr hflush
  · rw [hfinish]
    refine ⟨hkeyed, fun batch hentry hsome hidle => ?_, hflushed, hkept⟩
    by_cases hsame : batch = flush.batch
    · rw [hsame, hitems] at hsome
      exact absurd hnone hsome
    · exact harmed batch hentry hsame hsome hidle

end

/-! ### Runs -/

section

variable {N : Type} [LinearOrder N]

/-- **A step that loses no request**: the flushes that end, end well. -/
def CarefulStep (s : String → PeerReplays N) (event : ReplayEvent N)
    (s' : String → PeerReplays N) : Prop :=
  ReplayStep s event s' ∧
    ∀ peerDid flush, event = .finished peerDid flush → (s peerDid).EndsWell flush

/-- **A step** keeps the invariant of every peer. -/
theorem keeps_step {events : List (ReplayEvent N)} {event : ReplayEvent N}
    {s s' : String → PeerReplays N} (h : ∀ peerDid, (s peerDid).Keeps (Outstanding events peerDid))
    (hstep : CarefulStep s event s') :
    ∀ peerDid, (s' peerDid).Keeps (Outstanding (events ++ [event]) peerDid) := by
  obtain ⟨hstep, hends⟩ := hstep
  -- every step but the last is a step at one peer
  have hupdate {peerDid : String} {next : PeerReplays N}
      (hnext : next.Keeps (Outstanding (events ++ [event]) peerDid))
      (hother : ∀ peerDid' request, event = .scheduled peerDid' request → peerDid' = peerDid) :
      ∀ peerDid', (Function.update s peerDid next peerDid').Keeps
        (Outstanding (events ++ [event]) peerDid') := by
    intro peerDid'
    by_cases hpeer : peerDid' = peerDid
    · subst hpeer
      rw [Function.update_self]
      exact hnext
    · rw [Function.update_of_ne hpeer]
      refine (h peerDid').mono fun id hout => ?_
      rcases hout.of_snoc with ⟨request, hevent, _⟩ | ⟨hold, _⟩
      · exact absurd (hother peerDid' request hevent) hpeer
      · exact hold
  cases hstep with
  | schedule peerDid request =>
    refine hupdate ((h peerDid).schedule request fun id hout => ?_) ?_
    · rcases hout.of_snoc with ⟨request', hevent, hid⟩ | ⟨hold, _⟩
      · obtain ⟨_, rfl⟩ := ReplayEvent.scheduled.inj hevent
        exact Or.inl hid
      · exact Or.inr hold
    · intro peerDid' request' hevent
      exact (ReplayEvent.scheduled.inj hevent).1.symm
  | fire peerDid hmem =>
    refine hupdate (((h peerDid).fire _).mono fun id hout => ?_) (fun _ _ hevent => by cases hevent)
    rcases hout.of_snoc with ⟨_, hevent, _⟩ | ⟨hold, _⟩
    · cases hevent
    · exact hold
  | attempt peerDid hmem =>
    refine hupdate ((h peerDid).attempt fun id hout => ?_) (fun _ _ hevent => by cases hevent)
    rcases hout.of_snoc with ⟨_, hevent, _⟩ | ⟨hold, hsettles⟩
    · cases hevent
    · exact ⟨fun hid => hsettles ⟨rfl, hid⟩, hold⟩
  | finish peerDid hmem =>
    refine hupdate (((h peerDid).finish (hends peerDid _ rfl)).mono fun id hout => ?_)
      (fun _ _ hevent => by cases hevent)
    rcases hout.of_snoc with ⟨_, hevent, _⟩ | ⟨hold, _⟩
    · cases hevent
    · exact hold
  | cancel peerDid =>
    refine hupdate ((h peerDid).cancel fun id hout => ?_) (fun _ _ hevent => by cases hevent)
    rcases hout.of_snoc with ⟨_, hevent, _⟩ | ⟨_, hsettles⟩
    · cases hevent
    · exact hsettles rfl
  | cancelAll =>
    refine fun peerDid => (h peerDid).cancel fun id hout => ?_
    rcases hout.of_snoc with ⟨_, hevent, _⟩ | ⟨_, hsettles⟩
    · cases hevent
    · exact hsettles trivial

/-- **No request is lost**, in the runs whose flushes end well: once a peer has no timer armed and
no flush running, each of its requests was attempted, or cancelled by a recovery, after it was
scheduled. -/
theorem replays_attempted {events : List (ReplayEvent N)} {s : String → PeerReplays N}
    (hrun : Trace CarefulStep (fun _ => PeerReplays.empty) events s) (peerDid : String)
    (htimers : (s peerDid).timers = []) (hflushes : (s peerDid).flushes = [])
    (lookupMessageId : String) : ¬Outstanding events peerDid lookupMessageId := by
  have hkeeps : ∀ peerDid, (s peerDid).Keeps (Outstanding events peerDid) := by
    refine hrun.invariant
      (fun events s => ∀ peerDid, (s peerDid).Keeps (Outstanding events peerDid)) ?_
      fun _ h hstep => keeps_step h hstep
    intro peerDid
    refine PeerReplays.Keeps.empty.mono fun id hout => ?_
    obtain ⟨earlier, _, _, hsplit, _⟩ := hout
    exact absurd hsplit.symm (by simp)
  exact (hkeeps peerDid).idle htimers hflushes lookupMessageId

end

/-- A retry that Alice asks for. -/
def aliceRetry (lookupMessageId : String) (requestedAt : ℤ) : PendingReplayRequest ℤ where
  lookupMessageId := lookupMessageId
  reason := "decrypt-failed"
  requestedAt := requestedAt

/-- A flush of one request. -/
def attemptedReplay : List (ReplayEvent ℤ) :=
  [.scheduled "did:a" (aliceRetry "m1" 10), .fired "did:a" 0,
    .attempted "did:a" (aliceRetry "m1" 10), .finished "did:a" { batch := 0, remaining := [] }]

theorem replays_attempted_one : ¬Outstanding attemptedReplay "did:a" "m1" := by
  have hstart : Trace CarefulStep (fun _ => (PeerReplays.empty : PeerReplays ℤ)) []
      fun _ => PeerReplays.empty := .nil
  have hschedule := hstart.snoc
    ⟨.schedule "did:a" (aliceRetry "m1" 10), fun _ _ hevent => by cases hevent⟩
  have hfire := hschedule.snoc
    ⟨@ReplayStep.fire ℤ _ _ "did:a" 0 (by decide +kernel), fun _ _ hevent => by cases hevent⟩
  have hattempt := hfire.snoc
    ⟨@ReplayStep.attempt ℤ _ _ "did:a" 0 (aliceRetry "m1" 10) [] (by decide +kernel),
      fun _ _ hevent => by cases hevent⟩
  have hfinish := hattempt.snoc
    ⟨@ReplayStep.finish ℤ _ _ "did:a" { batch := 0, remaining := [] } (by decide +kernel),
      fun peerDid flush hevent => by
        obtain ⟨rfl, rfl⟩ := ReplayEvent.finished.inj hevent
        refine ⟨rfl, fun _ _ batch hentry => ?_⟩
        obtain rfl : 0 = batch := Option.some.inj hentry
        decide +kernel⟩
  exact replays_attempted hfinish "did:a" (by decide +kernel) (by decide +kernel) "m1"

/-! ### Lost requests -/

/-- Two requests, and the replay of the first one fails. -/
def failedReplay : List (ReplayEvent ℤ) :=
  [.scheduled "did:a" (aliceRetry "m1" 10), .scheduled "did:a" (aliceRetry "m2" 20),
    .fired "did:a" 1, .attempted "did:a" (aliceRetry "m1" 10),
    .finished "did:a" { batch := 0, remaining := [aliceRetry "m2" 20] }]

/-- A recovery cancels the batch while its flush is running, a request comes in after the
recovery, and the old flush ends. -/
def overtakenReplay : List (ReplayEvent ℤ) :=
  [.scheduled "did:a" (aliceRetry "m1" 10), .fired "did:a" 0,
    .attempted "did:a" (aliceRetry "m1" 10), .cancelled "did:a",
    .scheduled "did:a" (aliceRetry "m2" 20), .finished "did:a" { batch := 0, remaining := [] },
    .fired "did:a" 1]

/-- **Two ways to lose a request**: behind one whose replay fails, and in a batch that the end of
an older flush removes from the map. -/
theorem replay_dropped :
    (∃ s, Trace ReplayStep (fun _ => PeerReplays.empty) failedReplay s ∧
      (∀ peerDid, (s peerDid).timers = [] ∧ (s peerDid).flushes = []) ∧
      Outstanding failedReplay "did:a" "m2") ∧
    ∃ s, Trace ReplayStep (fun _ => PeerReplays.empty) overtakenReplay s ∧
      (∀ peerDid, (s peerDid).timers = [] ∧ (s peerDid).flushes = []) ∧
      Outstanding overtakenReplay "did:a" "m2" := by
  have hempty : (PeerReplays.empty : PeerReplays ℤ).timers = []
      ∧ (PeerReplays.empty : PeerReplays ℤ).flushes = [] := ⟨rfl, rfl⟩
  constructor
  · have hrun := (((((@Trace.nil _ _ ReplayStep fun _ => PeerReplays.empty).snoc
        (.schedule "did:a" (aliceRetry "m1" 10))).snoc
        (.schedule "did:a" (aliceRetry "m2" 20))).snoc
        (@ReplayStep.fire ℤ _ _ "did:a" 1 (by decide +kernel))).snoc
        (@ReplayStep.attempt ℤ _ _ "did:a" 0 (aliceRetry "m1" 10) [aliceRetry "m2" 20]
          (by decide +kernel))).snoc
        (@ReplayStep.finish ℤ _ _ "did:a" { batch := 0, remaining := [aliceRetry "m2" 20] }
          (by decide +kernel))
    refine ⟨_, hrun, fun peerDid => ?_, ?_⟩
    · by_cases hpeer : peerDid = "did:a"
      · subst hpeer
        decide +kernel
      · simp only [Function.update_of_ne hpeer]
        exact hempty
    · refine ⟨[.scheduled "did:a" (aliceRetry "m1" 10)], aliceRetry "m2" 20, _, rfl, rfl,
        fun event hmem hsettles => ?_⟩
      rcases List.mem_cons.mp hmem with rfl | hmem
      · cases hsettles
      rcases List.mem_cons.mp hmem with rfl | hmem
      · exact absurd hsettles.2 (by decide)
      · obtain rfl := List.mem_singleton.mp hmem
        cases hsettles
  · have hrun := (((((((@Trace.nil _ _ ReplayStep fun _ => PeerReplays.empty).snoc
        (.schedule "did:a" (aliceRetry "m1" 10))).snoc
        (@ReplayStep.fire ℤ _ _ "did:a" 0 (by decide +kernel))).snoc
        (@ReplayStep.attempt ℤ _ _ "did:a" 0 (aliceRetry "m1" 10) []
          (by decide +kernel))).snoc
        (.cancel "did:a")).snoc
        (.schedule "did:a" (aliceRetry "m2" 20))).snoc
        (@ReplayStep.finish ℤ _ _ "did:a" { batch := 0, remaining := [] }
          (by decide +kernel))).snoc
        (@ReplayStep.fire ℤ _ _ "did:a" 1 (by decide +kernel))
    refine ⟨_, hrun, fun peerDid => ?_, ?_⟩
    · by_cases hpeer : peerDid = "did:a"
      · subst hpeer
        decide +kernel
      · simp only [Function.update_of_ne hpeer]
        exact hempty
    · refine ⟨[.scheduled "did:a" (aliceRetry "m1" 10), .fired "did:a" 0,
        .attempted "did:a" (aliceRetry "m1" 10), .cancelled "did:a"], aliceRetry "m2" 20, _, rfl,
        rfl, fun event hmem hsettles => ?_⟩
      rcases List.mem_cons.mp hmem with rfl | hmem
      · cases hsettles
      · obtain rfl := List.mem_singleton.mp hmem
        cases hsettles

end QuadraA.Runtime
