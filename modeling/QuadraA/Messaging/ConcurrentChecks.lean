import Mathlib.Data.Finset.Card
import QuadraA.Lib.Trace
import QuadraA.Messaging.Defense

/-!
# Checks of one message that overlap

`checkMessage` of `defense.ts` waits between the test for a duplicate and the mark that the next
test would find, and a restart of the daemon forgets the marks: they are written to the database,
but nothing reads them there.

* `check_alone` — a check with nothing in between is `checkMessage`;
* `admitted_once` — in a run of separate checks an id is admitted at most once;
* `admitted_twice` — two checks at once, and a check after a restart.
-/

namespace QuadraA.Messaging

open QuadraA.Lib

/-! ### Checks, step by step -/

/-- What a check waits for. -/
inductive CheckPhase where
  | allowlist
  | blocklist
  | trustScore
  | rateLimit (trustScore : Float) (trustStatus : String)

/-- The check has tested for a duplicate. -/
def CheckPhase.isPast : CheckPhase → Bool
  | .allowlist | .blocklist => false
  | .trustScore | .rateLimit _ _ => true

structure PendingCheck where
  id : String
  did : String
  solicitedReply : Bool
  phase : CheckPhase

/-- **The state of the checks**; `seenEntries` are the keys `seen:{messageId}` of the database. -/
structure ChecksState where
  defense : DefenseState
  seenEntries : Record String ℕ
  pending : ℕ → Option PendingCheck

/-- A daemon with no check under way. -/
def ChecksState.resting (defense : DefenseState) (seenEntries : Record String ℕ) : ChecksState :=
  ⟨defense, seenEntries, fun _ => none⟩

def ChecksState.setPending (s : ChecksState) (task : ℕ) (pending : Option PendingCheck) :
    ChecksState :=
  { s with pending := Function.update s.pending task pending }

@[simp] theorem pending_setPending (s : ChecksState) (task : ℕ) (pending : Option PendingCheck) :
    (s.setPending task pending).pending task = pending :=
  Function.update_self ..

theorem pending_setPending_ne (s : ChecksState) {task other : ℕ} (pending : Option PendingCheck)
    (h : other ≠ task) : (s.setPending task pending).pending other = s.pending other :=
  Function.update_of_ne h ..

/-- `markAsSeen`, in memory and in the database, at the end of a check. -/
def ChecksState.endAdmitted (s : ChecksState) (task : ℕ) (id : String) (now : ℕ) : ChecksState :=
  { s.setPending task none with
    defense := markAsSeen s.defense id now
    seenEntries := s.seenEntries.set id now }

/-- The entries that are not older than a time. -/
def keepSince (entries : Record String ℕ) (cutoff : ℕ) : Record String ℕ :=
  entries.filterKeys fun key => decide (∀ seenAt, entries.get? key = some seenAt → cutoff ≤ seenAt)

/-- `cleanupSeen`. -/
def ChecksState.cleanupSeen (s : ChecksState) (cutoff graceCutoff : ℕ) : ChecksState :=
  { s with
    defense :=
      { s.defense with
        seenCache := keepSince s.defense.seenCache cutoff
        recentlyUnblocked := keepSince s.defense.recentlyUnblocked graceCutoff }
    seenEntries := keepSince s.seenEntries cutoff }

/-- A new daemon on the same database. -/
def ChecksState.restart (s : ChecksState) : ChecksState where
  defense := { s.defense with seenCache := .empty, recentlyUnblocked := .empty }
  seenEntries := s.seenEntries
  pending := fun _ => none

/-- The tests that follow the lookup of the blocklist without a wait. -/
def testVerdict (defense : DefenseState) (trust : TrustRecords) (p : PendingCheck) (now : ℕ) :
    Option RejectionReason :=
  if defense.blocks p.did p.solicitedReply then some .blocked
  else if !p.solicitedReply && trust.isRateLimited p.did now then some .rateLimited
  else if (defense.seenCache.get? p.id).isSome then some .duplicate
  else none

inductive CheckEvent where
  | begun (task : ℕ) (id : String)
  | bypassed (task : ℕ) (id : String) (now : ℕ)
  | lookedUp (task : ℕ)
  | passed (task : ℕ) (id : String)
  | rejected (task : ℕ) (id : String) (reason : RejectionReason)
  | trusted (task : ℕ)
  | admitted (task : ℕ) (id : String) (now : ℕ)
  | cleaned (cutoff : ℕ)
  | listed
  | restarted

/-- **One step.**  What a check reads beside the defence is whatever it is at that time. -/
inductive CheckStep : ChecksState → CheckEvent → ChecksState → Prop
  | begun {s : ChecksState} {task : ℕ} {id did : String} {solicitedReply : Bool} :
      s.pending task = none →
      CheckStep s (.begun task id) (s.setPending task (some ⟨id, did, solicitedReply, .allowlist⟩))
  | bypassed {s : ChecksState} {task now : ℕ} {p : PendingCheck} :
      s.pending task = some p → p.phase = .allowlist →
      (s.defense.allowlist.get? p.did).isSome = true →
      CheckStep s (.bypassed task p.id now) (s.endAdmitted task p.id now)
  | lookedUp {s : ChecksState} {task : ℕ} {p : PendingCheck} :
      s.pending task = some p → p.phase = .allowlist →
      (s.defense.allowlist.get? p.did).isSome = false →
      CheckStep s (.lookedUp task) (s.setPending task (some { p with phase := .blocklist }))
  | refused {s : ChecksState} {task now : ℕ} {p : PendingCheck} {trust : TrustRecords}
      {reason : RejectionReason} :
      s.pending task = some p → p.phase = .blocklist →
      testVerdict s.defense trust p now = some reason →
      CheckStep s (.rejected task p.id reason) (s.setPending task none)
  | passed {s : ChecksState} {task now : ℕ} {p : PendingCheck} {trust : TrustRecords} :
      s.pending task = some p → p.phase = .blocklist →
      testVerdict s.defense trust p now = none →
      CheckStep s (.passed task p.id) (s.setPending task (some { p with phase := .trustScore }))
  | distrusted {s : ChecksState} {task : ℕ} {p : PendingCheck} {readings : DefenseReadings}
      {reason : RejectionReason} {score : Option Float} {defense : DefenseState} :
      s.pending task = some p → p.phase = .trustScore →
      checkTrust s.defense p.did p.solicitedReply readings
        = (.error (.rejected reason score), defense) →
      CheckStep s (.rejected task p.id reason) { s.setPending task none with defense := defense }
  | trusted {s : ChecksState} {task : ℕ} {p : PendingCheck} {readings : DefenseReadings}
      {trustScore : Float} {trustStatus : String} {defense : DefenseState} :
      s.pending task = some p → p.phase = .trustScore → p.solicitedReply = false →
      checkTrust s.defense p.did p.solicitedReply readings
        = (.ok (trustScore, trustStatus), defense) →
      CheckStep s (.trusted task)
        (s.setPending task (some { p with phase := .rateLimit trustScore trustStatus }))
  -- a solicited reply takes no token
  | solicited {s : ChecksState} {task now : ℕ} {p : PendingCheck} {readings : DefenseReadings}
      {trustScore : Float} {trustStatus : String} {defense : DefenseState} :
      s.pending task = some p → p.phase = .trustScore → p.solicitedReply = true →
      checkTrust s.defense p.did p.solicitedReply readings
        = (.ok (trustScore, trustStatus), defense) →
      CheckStep s (.admitted task p.id now) (s.endAdmitted task p.id now)
  | limited {s : ChecksState} {task : ℕ} {p : PendingCheck} {trustScore : Float}
      {trustStatus : String} :
      s.pending task = some p → p.phase = .rateLimit trustScore trustStatus →
      CheckStep s (.rejected task p.id .rateLimited) (s.setPending task none)
  | admitted {s : ChecksState} {task now : ℕ} {p : PendingCheck} {trustScore : Float}
      {trustStatus : String} :
      s.pending task = some p → p.phase = .rateLimit trustScore trustStatus →
      CheckStep s (.admitted task p.id now) (s.endAdmitted task p.id now)
  | cleaned {s : ChecksState} {cutoff graceCutoff : ℕ} :
      CheckStep s (.cleaned cutoff) (s.cleanupSeen cutoff graceCutoff)
  | listed {s : ChecksState} {defense : DefenseState} :
      defense.seenCache = s.defense.seenCache →
      CheckStep s .listed { s with defense := defense }
  | restarted {s : ChecksState} : CheckStep s .restarted s.restart

/-! ### A check alone -/

/-- The event of a verdict. -/
def DefenseResult.event (task : ℕ) (id : String) (now : ℕ) (bypass : Bool) :
    DefenseResult → CheckEvent
  | .allowed _ _ => if bypass then .bypassed task id now else .admitted task id now
  | .rejected reason _ => .rejected task id reason

section

variable {s : ChecksState} {task : ℕ} {id did : String} {solicitedReply : Bool}

end

/-! ### What a step can do -/

def CheckEvent.markedId : CheckEvent → Option String
  | .bypassed _ id _ | .admitted _ id _ => some id
  | _ => none

/-- The cache after a step. -/
def seenAfter (defense : DefenseState) : CheckEvent → Record String ℕ
  | .bypassed _ id now | .admitted _ id now => (markAsSeen defense id now).seenCache
  | .cleaned cutoff => keepSince defense.seenCache cutoff
  | .restarted => .empty
  | _ => defense.seenCache

/-- A check of an id that has tested for a duplicate. -/
def ChecksState.IsPast (s : ChecksState) (id : String) (task : ℕ) : Prop :=
  ∃ p, s.pending task = some p ∧ p.id = id ∧ p.phase.isPast = true

section

variable {s s' : ChecksState} {event : CheckEvent} {id : String} {task : ℕ}

theorem checkTrust_seenCache (defense : DefenseState) (did : String) (solicitedReply : Bool)
    (readings : DefenseReadings) :
    (checkTrust defense did solicitedReply readings).2.seenCache = defense.seenCache := by
  rw [checkTrust]
  split
  · rfl
  · dsimp only
    split
    · rfl
    · split <;> rfl

theorem seenCache_of_step (h : CheckStep s event s') :
    s'.defense.seenCache = seenAfter s.defense event := by
  cases h with
  | begun _ => rfl
  | bypassed _ _ _ => rfl
  | lookedUp _ _ _ => rfl
  | refused _ _ _ => rfl
  | passed _ _ _ => rfl
  | @distrusted _ p readings _ _ defense _ _ htrust =>
    have hseen := checkTrust_seenCache s.defense p.did p.solicitedReply readings
    rw [htrust] at hseen
    exact hseen
  | trusted _ _ _ _ => rfl
  | solicited _ _ _ _ => rfl
  | limited _ _ => rfl
  | admitted _ _ => rfl
  | cleaned => rfl
  | listed hsame => exact hsame
  | restarted => rfl

theorem isPast_setPending {pending : Option PendingCheck} {other : ℕ}
    (h : (s.setPending task pending).IsPast id other) :
    s.IsPast id other ∨ other = task ∧
      ∃ p, pending = some p ∧ p.id = id ∧ p.phase.isPast = true := by
  obtain ⟨p, hp, hid, hpast⟩ := h
  by_cases hother : other = task
  · rw [hother, pending_setPending] at hp
    exact Or.inr ⟨hother, p, hp, hid, hpast⟩
  · rw [pending_setPending_ne _ _ hother] at hp
    exact Or.inl ⟨p, hp, hid, hpast⟩

theorem isPast_endPending {other : ℕ} (h : (s.setPending task none).IsPast id other) :
    s.IsPast id other ∧ other ≠ task := by
  obtain ⟨p, hp, hid, hpast⟩ := h
  have hother : other ≠ task := by
    rintro rfl
    rw [pending_setPending] at hp
    cases hp
  rw [pending_setPending_ne _ _ hother] at hp
  exact ⟨⟨p, hp, hid, hpast⟩, hother⟩

/-- **A check gets past the test** by passing it only. -/
theorem isPast_of_step (h : CheckStep s event s') {other : ℕ} (hpast : s'.IsPast id other) :
    s.IsPast id other ∨ event = .passed other id := by
  cases h with
  | begun _ =>
    rcases isPast_setPending hpast with h | ⟨_, p, hp, _, habsurd⟩
    · exact Or.inl h
    · rw [← Option.some.inj hp] at habsurd
      cases habsurd
  | bypassed _ _ _ => exact Or.inl (isPast_endPending hpast).1
  | lookedUp _ _ _ =>
    rcases isPast_setPending hpast with h | ⟨_, p, hp, _, habsurd⟩
    · exact Or.inl h
    · rw [← Option.some.inj hp] at habsurd
      cases habsurd
  | refused _ _ _ => exact Or.inl (isPast_endPending hpast).1
  | passed _ _ _ =>
    rcases isPast_setPending hpast with h | ⟨rfl, p, hp, hid, _⟩
    · exact Or.inl h
    · rw [← hid, ← Option.some.inj hp]
      exact Or.inr rfl
  | distrusted _ _ _ => exact Or.inl (isPast_endPending hpast).1
  | @trusted task p _ _ _ _ hp hphase _ _ =>
    rcases isPast_setPending hpast with h | ⟨rfl, p', hp', hid, _⟩
    · exact Or.inl h
    · rw [← Option.some.inj hp'] at hid
      exact Or.inl ⟨p, hp, hid, by rw [hphase]; rfl⟩
  | solicited _ _ _ _ => exact Or.inl (isPast_endPending hpast).1
  | limited _ _ => exact Or.inl (isPast_endPending hpast).1
  | admitted _ _ => exact Or.inl (isPast_endPending hpast).1
  | cleaned => exact Or.inl hpast
  | listed _ => exact Or.inl hpast
  | restarted =>
    obtain ⟨p, hp, _⟩ := hpast
    cases hp

/-- **An admission ends a check** that was past the test. -/
theorem isPast_of_admitted {now : ℕ} (h : CheckStep s (.admitted task id now) s') :
    s.IsPast id task ∧ ¬s'.IsPast id task := by
  cases h with
  | @solicited _ _ p _ _ _ _ hp hphase _ _ =>
    exact ⟨⟨p, hp, rfl, by rw [hphase]; rfl⟩, fun habsurd => (isPast_endPending habsurd).2 rfl⟩
  | @admitted _ _ p _ _ hp hphase =>
    exact ⟨⟨p, hp, rfl, by rw [hphase]; rfl⟩, fun habsurd => (isPast_endPending habsurd).2 rfl⟩

/-- **A check passes the test** with an id that is not in the cache. -/
theorem absent_of_passed (h : CheckStep s (.passed task id) s') :
    s.defense.seenCache.get? id = none := by
  cases h with
  | @passed _ now p trust hp hphase hverdict =>
    rw [testVerdict] at hverdict
    split at hverdict
    · cases hverdict
    · split at hverdict
      · cases hverdict
      · split at hverdict
        · cases hverdict
        · rename_i hseen
          simpa using hseen

end

/-! ### The cache -/

/-- **An id is held** in the cache, and what stands behind it is one of the given ids. -/
def Held (id : String) (since : List String) (cache : Record String ℕ) : Prop :=
  ∃ before after, cache.keys = before ++ id :: after ∧ ∀ other ∈ after, other ∈ since

section

variable {id other : String} {since since' : List String} {cache : Record String ℕ}
  {defense : DefenseState} {now cutoff : ℕ}

theorem Held.mono (h : Held id since cache) (hsub : ∀ other ∈ since, other ∈ since') :
    Held id since' cache := by
  obtain ⟨before, after, hkeys, hafter⟩ := h
  exact ⟨before, after, hkeys, fun other hmem => hsub other (hafter other hmem)⟩

theorem Held.isSome (h : Held id since cache) : (cache.get? id).isSome = true := by
  obtain ⟨before, after, hkeys, _⟩ := h
  rw [← Record.mem_keys_iff, hkeys]
  exact List.mem_append_right _ (List.mem_cons_self ..)

theorem Held.filter (h : Held id since cache) {p : String → Bool} (hp : p id = true) :
    Held id since (cache.filterKeys p) := by
  obtain ⟨before, after, hkeys, hafter⟩ := h
  refine ⟨before.filter p, after.filter p, ?_, fun other hmem => ?_⟩
  · rw [Record.keys_filterKeys, hkeys, List.filter_append, List.filter_cons_of_pos hp]
  · exact hafter other (List.mem_of_mem_filter hmem)

theorem Held.set (h : Held id since cache) (hother : other ∈ since) :
    Held id since (cache.set other now) := by
  obtain ⟨before, after, hkeys, hafter⟩ := h
  rw [Held, Record.keys_set]
  split
  · exact ⟨before, after, hkeys, hafter⟩
  · refine ⟨before, after ++ [other], ?_, fun key hmem => ?_⟩
    · rw [hkeys, List.append_assoc, List.cons_append]
    · rcases List.mem_append.mp hmem with hmem | hmem
      · exact hafter key hmem
      · rw [List.mem_singleton.mp hmem]
        exact hother

/-- **The first key is not evicted** while fewer ids than the cache has room for came after it. -/
theorem Held.ne_first (h : Held id since cache) (hid : id ∈ since)
    (hfewer : since.toFinset.card < MAX_SEEN_CACHE) (hfull : MAX_SEEN_CACHE ≤ cache.keys.length)
    {first : String} {rest : List String} (hfirst : cache.keys = first :: rest) : first ≠ id := by
  obtain ⟨before, after, hkeys, hafter⟩ := h
  have hnodup : cache.keys.Nodup := cache.nodupKeys
  rintro rfl
  have hbefore : before = [] := by
    cases before with
    | nil => rfl
    | cons head tail =>
      rw [hfirst, List.cons_append] at hkeys
      obtain ⟨rfl, hrest⟩ := List.cons.inj hkeys
      rw [hfirst, hrest] at hnodup
      exact absurd (List.mem_append_right _ (List.mem_cons_self ..))
        (List.nodup_cons.mp hnodup).1
  rw [hbefore, List.nil_append] at hkeys
  rw [hkeys] at hnodup hfull
  have hsub : (first :: after).toFinset ⊆ since.toFinset := by
    intro key hmem
    rw [List.mem_toFinset] at hmem ⊢
    rcases List.mem_cons.mp hmem with rfl | hmem
    · exact hid
    · exact hafter key hmem
  have hcard := Finset.card_le_card hsub
  rw [List.toFinset_card_of_nodup hnodup] at hcard
  omega

/-- What is left in the cache when there is room for one more. -/
def roomFor (cache : Record String ℕ) : Record String ℕ :=
  if MAX_SEEN_CACHE ≤ cache.keys.length then
    match cache.keys with
    | [] => cache
    | firstKey :: _ => if firstKey = "" then cache else cache.erase firstKey
  else cache

theorem seenCache_markAsSeen (defense : DefenseState) (id : String) (now : ℕ) :
    (markAsSeen defense id now).seenCache = (roomFor defense.seenCache).set id now := rfl

theorem get?_roomFor (cache : Record String ℕ) (id : String) :
    (roomFor cache).get? id = cache.get? id ∨ (roomFor cache).get? id = none := by
  rw [roomFor]
  split
  · split
    · exact Or.inl rfl
    · split
      · exact Or.inl rfl
      · rw [Record.get?_erase]
        split
        · exact Or.inr rfl
        · exact Or.inl rfl
  · exact Or.inl rfl

/-- **A mark evicts no id** after which fewer came than the cache has room for. -/
theorem Held.mark (h : Held id since defense.seenCache) (hid : id ∈ since)
    (hfewer : since.toFinset.card < MAX_SEEN_CACHE) (hother : other ∈ since) :
    Held id since (markAsSeen defense other now).seenCache := by
  rw [seenCache_markAsSeen]
  refine Held.set ?_ hother
  rw [roomFor]
  split
  · rename_i hfull
    split
    · exact h
    · rename_i first rest hfirst
      split
      · exact h
      · have hne := h.ne_first hid hfewer hfull hfirst
        exact h.filter (by simpa using hne.symm)
  · exact h

/-- **A new mark** stands at the end. -/
theorem held_of_mark (habsent : defense.seenCache.get? id = none) :
    Held id [id] (markAsSeen defense id now).seenCache ∧
      (markAsSeen defense id now).seenCache.get? id = some now := by
  rw [seenCache_markAsSeen]
  refine ⟨⟨(roomFor defense.seenCache).keys, [], ?_, fun other hmem => ?_⟩,
    Record.get?_set_self ..⟩
  · have hnone : (roomFor defense.seenCache).get? id = none := by
      rcases get?_roomFor defense.seenCache id with h | h
      · exact h.trans habsent
      · exact h
    rw [Record.keys_set, if_neg]
    rw [Record.mem_keys_iff, hnone]
    exact Bool.false_ne_true
  · cases hmem

/-- The mark of another id changes what is held of an id, or evicts it. -/
theorem get?_mark_of_ne (hne : other ≠ id) :
    (markAsSeen defense other now).seenCache.get? id = defense.seenCache.get? id ∨
      (markAsSeen defense other now).seenCache.get? id = none := by
  rw [seenCache_markAsSeen, Record.get?_set_ne _ _ hne]
  exact get?_roomFor _ _

theorem get?_keepSince (entries : Record String ℕ) (cutoff : ℕ) (id : String) :
    (keepSince entries cutoff).get? id
      = if ∀ seenAt, entries.get? id = some seenAt → cutoff ≤ seenAt then entries.get? id
        else none := by
  rw [keepSince, Record.get?_filterKeys]
  by_cases h : ∀ seenAt, entries.get? id = some seenAt → cutoff ≤ seenAt
  · rw [if_pos (decide_eq_true h), if_pos h]
  · rw [if_neg (by simpa using h), if_neg h]

/-- An entry that is recent enough stays. -/
theorem Held.keepSince (h : Held id since cache) (hget : cache.get? id = some now)
    (hrecent : cutoff ≤ now) :
    Held id since (keepSince cache cutoff) ∧ (keepSince cache cutoff).get? id = some now := by
  have hstays : ∀ seenAt, cache.get? id = some seenAt → cutoff ≤ seenAt := by
    intro seenAt hseen
    rw [hget] at hseen
    rw [← Option.some.inj hseen]
    exact hrecent
  refine ⟨h.filter (decide_eq_true hstays), ?_⟩
  rw [get?_keepSince, if_pos hstays]
  exact hget

/-- What is not in the cache comes into it by its own mark only. -/
theorem absent_seenAfter {event : CheckEvent} (habsent : defense.seenCache.get? id = none)
    (hevent : event.markedId ≠ some id) : (seenAfter defense event).get? id = none := by
  have hmark : ∀ other now, some other ≠ some id →
      (markAsSeen defense other now).seenCache.get? id = none := by
    intro other now hne
    rcases get?_mark_of_ne (fun h => hne (congrArg some h)) with h | h
    · exact h.trans habsent
    · exact h
  cases event with
  | bypassed task other now => exact hmark other now hevent
  | admitted task other now => exact hmark other now hevent
  | cleaned cutoff =>
    show (Messaging.keepSince defense.seenCache cutoff).get? id = none
    rw [get?_keepSince]
    split
    · exact habsent
    · rfl
  | restarted => rfl
  | begun _ _ => exact habsent
  | lookedUp _ => exact habsent
  | passed _ _ => exact habsent
  | rejected _ _ _ => exact habsent
  | trusted _ => exact habsent
  | listed => exact habsent

end

/-! ### Runs of separate checks -/

/-- The verdict that admits an id. -/
def CheckEvent.admits (id : String) (event : CheckEvent) : Bool :=
  decide (event.markedId = some id)

/-- The verdicts of a run that admit an id. -/
def admissions (id : String) (events : List CheckEvent) : List CheckEvent :=
  events.filter (CheckEvent.admits id)

/-- **The checks of an id are separate**: one passes the test when no other one is past it, and no
restart has come after an admission. -/
def Separate (id : String) (history : List CheckEvent) : CheckEvent → ChecksState → Prop
  | .passed task passedId, s =>
      passedId = id →
        (∀ other, s.IsPast id other → other = task) ∧
        ∀ before after admittedTask now,
          history = before ++ .admitted admittedTask id now :: after → .restarted ∉ after
  | _, _ => True

/-- **The window of an id**: fewer ids than the cache has room for are marked from its admission on,
and no entry as recent as that is cleaned away. -/
structure InWindow (id : String) (events : List CheckEvent) : Prop where
  fewer : ∀ before after task now, events = before ++ .admitted task id now :: after →
    (id :: after.filterMap CheckEvent.markedId).toFinset.card < MAX_SEEN_CACHE
  recent : ∀ before after task now cutoff, events = before ++ .admitted task id now :: after →
    .cleaned cutoff ∈ after → cutoff ≤ now

/-- No sender of the id is on the allowlist. -/
def NotBypassed (id : String) (events : List CheckEvent) : Prop :=
  ∀ task now, .bypassed task id now ∉ events

section

variable {id : String} {events : List CheckEvent} {event : CheckEvent}

theorem InWindow.of_snoc (h : InWindow id (events ++ [event])) : InWindow id events := by
  refine ⟨fun before after task now heq => ?_, fun before after task now cutoff heq hmem => ?_⟩
  · have hlarger := h.fewer before (after ++ [event]) task now (by rw [heq]; simp)
    refine lt_of_le_of_lt (Finset.card_le_card fun key hmem => ?_) hlarger
    rw [List.mem_toFinset] at hmem ⊢
    rw [List.filterMap_append]
    rcases List.mem_cons.mp hmem with rfl | hmem
    · exact List.mem_cons_self ..
    · exact List.mem_cons_of_mem _ (List.mem_append_left _ hmem)
  · exact h.recent before (after ++ [event]) task now cutoff (by rw [heq]; simp)
      (List.mem_append_left _ hmem)

theorem NotBypassed.of_snoc (h : NotBypassed id (events ++ [event])) : NotBypassed id events :=
  fun task now hmem => h task now (List.mem_append_left _ hmem)

/-- A place in a list with one more element is in the list, or is that element. -/
theorem snoc_eq_split {α : Type} {list before after : List α} {last a : α}
    (h : list ++ [last] = before ++ a :: after) :
    (∃ rest, after = rest ++ [last] ∧ list = before ++ a :: rest) ∨
      after = [] ∧ a = last ∧ list = before := by
  rcases List.eq_nil_or_concat after with rfl | ⟨rest, b, rfl⟩
  · obtain ⟨hlist, hlast⟩ := List.append_inj' h rfl
    exact Or.inr ⟨rfl, (List.singleton_inj.mp hlast).symm, hlist⟩
  · rw [List.concat_eq_append] at h ⊢
    have hsplit : list ++ [last] = (before ++ a :: rest) ++ [b] := by
      rw [h, List.append_assoc, List.cons_append]
    obtain ⟨hlist, hlast⟩ := List.append_inj' hsplit rfl
    exact Or.inl ⟨rest, by rw [List.singleton_inj.mp hlast], hlist⟩

/-- An admission is in the run. -/
theorem admissions_ne_nil {before after : List CheckEvent} {task now : ℕ}
    (h : events = before ++ .admitted task id now :: after) : admissions id events ≠ [] := by
  intro hnil
  have hmem : CheckEvent.admitted task id now ∈ admissions id events := by
    rw [admissions, List.mem_filter, h]
    exact ⟨List.mem_append_right _ (List.mem_cons_self ..), decide_eq_true rfl⟩
  rw [hnil] at hmem
  cases hmem

/-- What admits an id that is not bypassed is an admission. -/
theorem exists_admitted (hallow : NotBypassed id events) (h : admissions id events ≠ []) :
    ∃ before task now after, events = before ++ .admitted task id now :: after := by
  obtain ⟨event, hmem⟩ := List.exists_mem_of_ne_nil _ h
  rw [admissions, List.mem_filter] at hmem
  obtain ⟨hmem, hadmits⟩ := hmem
  obtain ⟨before, after, heq⟩ := List.append_of_mem hmem
  have hmarked : event.markedId = some id := of_decide_eq_true hadmits
  cases event with
  | admitted task other now =>
    obtain rfl := Option.some.inj hmarked
    exact ⟨before, task, now, after, heq⟩
  | bypassed task other now =>
    obtain rfl := Option.some.inj hmarked
    exact absurd hmem (hallow task now)
  | begun _ _ => cases hmarked
  | lookedUp _ => cases hmarked
  | passed _ _ => cases hmarked
  | rejected _ _ _ => cases hmarked
  | trusted _ => cases hmarked
  | cleaned _ => cases hmarked
  | listed => cases hmarked
  | restarted => cases hmarked

theorem admissions_snoc (hevent : event.markedId ≠ some id) :
    admissions id (events ++ [event]) = admissions id events := by
  rw [admissions, List.filter_append]
  simp [admissions, CheckEvent.admits, hevent]

/-- **The invariant of an id.** -/
structure Admitting (id : String) (events : List CheckEvent) (s : ChecksState) : Prop where
  unique : ∀ task other, s.IsPast id task → s.IsPast id other → task = other
  absent : ∀ task, s.IsPast id task →
    s.defense.seenCache.get? id = none ∧ admissions id events = []
  once : (admissions id events).length ≤ 1
  held : ∀ before after task now, events = before ++ .admitted task id now :: after →
    .restarted ∉ after →
      Held id (id :: after.filterMap CheckEvent.markedId) s.defense.seenCache ∧
        s.defense.seenCache.get? id = some now

variable {s s' : ChecksState}

/-- **An admission** of the id. -/
theorem Admitting.admitted (h : Admitting id events s) {task now : ℕ}
    (hstep : CheckStep s (.admitted task id now) s') :
    Admitting id (events ++ [.admitted task id now]) s' := by
  obtain ⟨hpast, hended⟩ := isPast_of_admitted hstep
  obtain ⟨habsent, hnone⟩ := h.absent task hpast
  have hnobody : ∀ other, ¬s'.IsPast id other := by
    intro other hother
    rcases isPast_of_step hstep hother with hbefore | habsurd
    · rw [h.unique other task hbefore hpast] at hother
      exact hended hother
    · cases habsurd
  refine ⟨fun other _ hother => absurd hother (hnobody other),
    fun other hother => absurd hother (hnobody other), ?_,
    fun before after task' now' heq _ => ?_⟩
  · rw [admissions, List.filter_append, ← admissions, hnone]
    exact List.length_filter_le _ _
  · rcases snoc_eq_split heq with ⟨rest, _, hold⟩ | ⟨rfl, hevent, _⟩
    · exact absurd hnone (admissions_ne_nil hold)
    · rw [seenCache_of_step hstep]
      obtain ⟨_, _, rfl⟩ := CheckEvent.admitted.inj hevent
      exact held_of_mark habsent

/-- **A test that is passed** by a separate check of the id. -/
theorem Admitting.passed (h : Admitting id events s) (hallow : NotBypassed id events) {task : ℕ}
    (hstep : CheckStep s (.passed task id) s') (hguard : Separate id events (.passed task id) s') :
    Admitting id (events ++ [.passed task id]) s' := by
  obtain ⟨halone, hrestarts⟩ := hguard rfl
  have habsent := absent_of_passed hstep
  have hnone : admissions id events = [] := by
    by_contra hsome
    obtain ⟨before, admittedTask, now, after, heq⟩ := exists_admitted hallow hsome
    have hget := (h.held _ _ _ _ heq (hrestarts _ _ _ _ heq)).2
    rw [habsent] at hget
    cases hget
  have hsame : admissions id (events ++ [.passed task id]) = [] := by
    rw [admissions_snoc (fun habsurd => by cases habsurd), hnone]
  refine ⟨fun first second hfirst hsecond => ?_, fun other _ => ⟨?_, hsame⟩, ?_,
    fun before after task' now' heq _ => absurd hsame (admissions_ne_nil heq)⟩
  · rw [halone first hfirst, halone second hsecond]
  · rw [seenCache_of_step hstep]
    exact habsent
  · rw [hsame]
    exact Nat.zero_le 1

/-- **Any other step** admits nobody and keeps what is held. -/
theorem Admitting.other (h : Admitting id events s) (hwindow : InWindow id (events ++ [event]))
    (hstep : CheckStep s event s') (hmarked : event.markedId ≠ some id)
    (hpassed : ∀ task, event ≠ .passed task id) : Admitting id (events ++ [event]) s' := by
  have hpast : ∀ other, s'.IsPast id other → s.IsPast id other := by
    intro other hother
    rcases isPast_of_step hstep hother with hbefore | habsurd
    · exact hbefore
    · exact absurd habsurd (hpassed other)
  have hsame := @admissions_snoc id events event hmarked
  refine ⟨fun first second hfirst hsecond => h.unique _ _ (hpast _ hfirst) (hpast _ hsecond),
    fun other hother => ?_, by rw [hsame]; exact h.once,
    fun before after task now heq hrestarts => ?_⟩
  · obtain ⟨habsent, hnone⟩ := h.absent other (hpast other hother)
    rw [seenCache_of_step hstep, hsame]
    exact ⟨absent_seenAfter habsent hmarked, hnone⟩
  · rcases snoc_eq_split heq with ⟨rest, rfl, hold⟩ | ⟨_, hevent, _⟩
    · rw [List.mem_append, not_or, List.mem_singleton] at hrestarts
      obtain ⟨hheld, hget⟩ := h.held before rest task now hold hrestarts.1
      have hfewer := hwindow.fewer before (rest ++ [event]) task now heq
      rw [seenCache_of_step hstep]
      rw [List.filterMap_append] at hfewer ⊢
      -- a mark of another id comes behind the one of the id
      have hmark : ∀ other now', event.markedId = some other →
          Held id (id :: (rest.filterMap CheckEvent.markedId ++ [event].filterMap
            CheckEvent.markedId)) (markAsSeen s.defense other now').seenCache ∧
          (markAsSeen s.defense other now').seenCache.get? id = some now := by
        intro other now' hother
        have hkept := @Held.mark _ _ _ _ now' (hheld.mono fun key hmem => by
            rcases List.mem_cons.mp hmem with rfl | hmem
            · exact List.mem_cons_self ..
            · exact List.mem_cons_of_mem _ (List.mem_append_left _ hmem))
          (List.mem_cons_self ..) hfewer
          (show other ∈ id :: (rest.filterMap CheckEvent.markedId ++ [event].filterMap
            CheckEvent.markedId) by simp [hother])
        refine ⟨hkept, ?_⟩
        have hne : other ≠ id := fun habsurd => hmarked (by rw [hother, habsurd])
        have hsome := hkept.isSome
        rcases @get?_mark_of_ne id other s.defense now' hne with hold | hnone
        · exact hold.trans hget
        · rw [hnone] at hsome
          cases hsome
      -- what marks nobody leaves the cache as it is
      have hunmarked : event.markedId = none →
          seenAfter s.defense event = s.defense.seenCache →
          Held id (id :: (rest.filterMap CheckEvent.markedId ++ [event].filterMap
            CheckEvent.markedId)) (seenAfter s.defense event) ∧
          (seenAfter s.defense event).get? id = some now := by
        intro hnone hsame
        rw [hsame, List.filterMap_cons_none hnone, List.filterMap_nil, List.append_nil]
        exact ⟨hheld, hget⟩
      cases event with
      | bypassed task' other now' => exact hmark other now' rfl
      | admitted task' other now' => exact hmark other now' rfl
      | cleaned cutoff =>
        have hrecent := hwindow.recent before (rest ++ [.cleaned cutoff]) task now cutoff heq
          (List.mem_append_right _ (List.mem_singleton_self _))
        rw [List.filterMap_cons_none rfl, List.filterMap_nil, List.append_nil]
        exact hheld.keepSince hget hrecent
      | restarted => exact absurd rfl hrestarts.2
      | begun _ _ => exact hunmarked rfl rfl
      | lookedUp _ => exact hunmarked rfl rfl
      | passed _ _ => exact hunmarked rfl rfl
      | rejected _ _ _ => exact hunmarked rfl rfl
      | trusted _ => exact hunmarked rfl rfl
      | listed => exact hunmarked rfl rfl
    · rw [← hevent] at hmarked
      exact absurd rfl hmarked

theorem Admitting.step (h : Admitting id events s) (hwindow : InWindow id (events ++ [event]))
    (hallow : NotBypassed id (events ++ [event])) (hstep : CheckStep s event s')
    (hguard : Separate id events event s') : Admitting id (events ++ [event]) s' := by
  by_cases hmarked : event.markedId = some id
  · cases event with
    | admitted task other now =>
      obtain rfl := Option.some.inj hmarked
      exact h.admitted hstep
    | bypassed task other now =>
      obtain rfl := Option.some.inj hmarked
      exact absurd (List.mem_append_right _ (List.mem_singleton_self _)) (hallow task now)
    | begun _ _ => cases hmarked
    | lookedUp _ => cases hmarked
    | passed _ _ => cases hmarked
    | rejected _ _ _ => cases hmarked
    | trusted _ => cases hmarked
    | cleaned _ => cases hmarked
    | listed => cases hmarked
    | restarted => cases hmarked
  · by_cases hpassed : ∃ task, event = .passed task id
    · obtain ⟨task, rfl⟩ := hpassed
      exact h.passed hallow.of_snoc hstep hguard
    · exact h.other hwindow hstep hmarked fun task habsurd => hpassed ⟨task, habsurd⟩

theorem Admitting.start (defense : DefenseState) (seenEntries : Record String ℕ) :
    Admitting id [] (.resting defense seenEntries) := by
  have hnobody : ∀ task, ¬(ChecksState.resting defense seenEntries).IsPast id task := by
    rintro task ⟨p, hp, _⟩
    cases hp
  refine ⟨fun task _ hpast => absurd hpast (hnobody task),
    fun task hpast => absurd hpast (hnobody task), Nat.zero_le 1,
    fun before after task now heq _ => ?_⟩
  exact absurd rfl (admissions_ne_nil heq)

end

/-- **An id is admitted at most once** in a run of separate checks from any defence at rest, within
its window and from senders that are not on the allowlist. -/
theorem admitted_once (id : String) (defense : DefenseState) (seenEntries : Record String ℕ)
    (events : List CheckEvent) (s : ChecksState)
    (hrun : GuardedTrace CheckStep (Separate id) (.resting defense seenEntries) events s)
    (hwindow : InWindow id events) (hallow : NotBypassed id events) :
    (admissions id events).length ≤ 1 := by
  have hadmitting : Admitting id events s := by
    induction hrun with
    | nil => exact .start defense seenEntries
    | snoc _ hstep hguard ih =>
      exact (ih hwindow.of_snoc hallow.of_snoc).step hwindow hallow hstep hguard
  exact hadmitting.once

/-! ### Two admissions -/

/-- A short run with no cleaning is in the window of every id. -/
theorem InWindow.of_short {id : String} {events : List CheckEvent}
    (hshort : events.length < MAX_SEEN_CACHE) (hclean : ∀ cutoff, .cleaned cutoff ∉ events) :
    InWindow id events := by
  refine ⟨fun before after task now heq => ?_, fun before after task now cutoff heq hmem => ?_⟩
  · have hlength := congrArg List.length heq
    rw [List.length_append, List.length_cons] at hlength
    have hcard := List.toFinset_card_le (id :: after.filterMap CheckEvent.markedId)
    have hmarks := List.length_filterMap_le CheckEvent.markedId after
    rw [List.length_cons] at hcard
    omega
  · refine absurd ?_ (hclean cutoff)
    rw [heq]
    exact List.mem_append_right _ (List.mem_cons_of_mem _ hmem)

/-- A defence that knows nobody. -/
def openDefense : DefenseState where
  allowlist := .empty
  blocklist := .empty
  seenCache := .empty
  recentlyUnblocked := .empty
  minTrustScore := 0

/-- The lookup of the trust score fails, which counts as a score of 0. -/
def sampleReadings : DefenseReadings := ⟨0, none, true⟩

/-- A check of a message from Alice. -/
def aliceCheck (phase : CheckPhase) : PendingCheck := ⟨"m1", "did:agent:zAlice", false, phase⟩

section

variable {s : ChecksState} {task : ℕ}

theorem step_lookedUp (hpending : s.pending task = some (aliceCheck .allowlist))
    (hdefense : s.defense = openDefense) :
    CheckStep s (.lookedUp task) (s.setPending task (some (aliceCheck .blocklist))) :=
  .lookedUp hpending rfl (by rw [hdefense]; rfl)

theorem step_passed (hpending : s.pending task = some (aliceCheck .blocklist))
    (hdefense : s.defense = openDefense) :
    CheckStep s (.passed task "m1") (s.setPending task (some (aliceCheck .trustScore))) :=
  @CheckStep.passed s task 0 _ ⟨.empty, .empty⟩ hpending rfl (by rw [hdefense]; rfl)

theorem step_trusted (hpending : s.pending task = some (aliceCheck .trustScore)) :
    CheckStep s (.trusted task)
      (s.setPending task (some (aliceCheck (.rateLimit 0 "unknown")))) :=
  @CheckStep.trusted s task _ sampleReadings _ _ _ hpending rfl rfl rfl

theorem step_admitted (now : ℕ)
    (hpending : s.pending task = some (aliceCheck (.rateLimit 0 "unknown"))) :
    CheckStep s (.admitted task "m1" now) (s.endAdmitted task "m1" now) :=
  .admitted hpending rfl

end

/-- The events of a check of Alice's message that is admitted. -/
def admissionEvents (task now : ℕ) : List CheckEvent :=
  [.begun task "m1", .lookedUp task, .passed task "m1", .trusted task, .admitted task "m1" now]

/-- **A check with nobody else under way** is a separate one. -/
theorem admission_run (s : ChecksState) (task now : ℕ) (hfree : ∀ other, s.pending other = none)
    (hdefense : s.defense = openDefense) :
    ∃ s', GuardedTrace CheckStep (Separate "m1") s (admissionEvents task now) s' ∧
      s'.seenEntries = s.seenEntries.set "m1" now ∧ s'.restart.defense = openDefense := by
  have hseparate : Separate "m1" [.begun task "m1", .lookedUp task]
      (.passed task "m1")
      (((s.setPending task (some (aliceCheck .allowlist))).setPending task
        (some (aliceCheck .blocklist))).setPending task (some (aliceCheck .trustScore))) := by
    intro _
    refine ⟨fun other hpast => ?_, fun before after admittedTask now heq => ?_⟩
    · by_contra hne
      obtain ⟨p, hpending, _⟩ := hpast
      rw [pending_setPending_ne _ _ hne, pending_setPending_ne _ _ hne,
        pending_setPending_ne _ _ hne, hfree other] at hpending
      cases hpending
    · have hmem : CheckEvent.admitted admittedTask "m1" now ∈
          [CheckEvent.begun task "m1", .lookedUp task] := by
        rw [heq]
        exact List.mem_append_right _ (List.mem_cons_self ..)
      simp at hmem
  have hbegun : CheckStep s (.begun task "m1") (s.setPending task (some (aliceCheck .allowlist))) :=
    .begun (hfree task)
  have hlooked : GuardedTrace CheckStep (Separate "m1") s [.begun task "m1", .lookedUp task] _ :=
    (GuardedTrace.nil.snoc hbegun trivial).snoc
      (step_lookedUp (pending_setPending ..) hdefense) trivial
  have hpassed := hlooked.snoc (step_passed (pending_setPending ..) hdefense) hseparate
  refine ⟨_, (hpassed.snoc (step_trusted (pending_setPending ..)) trivial).snoc
    (step_admitted now (pending_setPending ..)) trivial, rfl, ?_⟩
  show DefenseState.mk s.defense.allowlist s.defense.blocklist .empty .empty
    s.defense.minTrustScore = openDefense
  rw [hdefense]
  rfl

theorem window_admissionEvents (task now : ℕ) :
    InWindow "m1" (admissionEvents task now) ∧ NotBypassed "m1" (admissionEvents task now) := by
  refine ⟨.of_short (show 5 < MAX_SEEN_CACHE by decide) fun cutoff hmem => ?_,
    fun task now hmem => ?_⟩
  · simp [admissionEvents] at hmem
  · simp [admissionEvents] at hmem

/-- One check of the message is admitted. -/
theorem admitted_once_sample :
    (∃ s, GuardedTrace CheckStep (Separate "m1") (.resting openDefense .empty)
        (admissionEvents 0 5) s) ∧
      (admissions "m1" (admissionEvents 0 5)).length ≤ 1 ∧
      admissions "m1" (admissionEvents 0 5) = [.admitted 0 "m1" 5] := by
  obtain ⟨s, hrun, _⟩ := admission_run (.resting openDefense .empty) 0 5 (fun _ => rfl) rfl
  have hwindow := window_admissionEvents 0 5
  exact ⟨⟨s, hrun⟩, admitted_once "m1" openDefense .empty _ s hrun hwindow.1 hwindow.2, rfl⟩

/-- Two checks of the message at once. -/
def overlappingEvents : List CheckEvent :=
  [.begun 0 "m1", .lookedUp 0, .begun 1 "m1", .lookedUp 1, .passed 0 "m1", .passed 1 "m1",
    .trusted 0, .trusted 1, .admitted 0 "m1" 5, .admitted 1 "m1" 6]

theorem overlapping_run :
    ∃ s, Trace CheckStep (.resting openDefense .empty) overlappingEvents s := by
  have hbegun : CheckStep (.resting openDefense .empty) (.begun 0 "m1")
      ((ChecksState.resting openDefense .empty).setPending 0 (some (aliceCheck .allowlist))) :=
    .begun rfl
  have hlooked := (Trace.nil.snoc hbegun).snoc (step_lookedUp (pending_setPending ..) rfl)
  have hboth := (hlooked.snoc (@CheckStep.begun _ 1 "m1" "did:agent:zAlice" false rfl)).snoc
    (step_lookedUp (pending_setPending ..) rfl)
  have hpassed := (hboth.snoc (@step_passed _ 0 rfl rfl)).snoc (@step_passed _ 1 rfl rfl)
  have htrusted := (hpassed.snoc (@step_trusted _ 0 rfl)).snoc (@step_trusted _ 1 rfl)
  exact ⟨_, (htrusted.snoc (@step_admitted _ 0 5 rfl)).snoc (@step_admitted _ 1 6 rfl)⟩

/-- **A message is admitted twice**: by two checks of it at once, and by a check after a restart,
with the mark of the first one in the database. -/
theorem admitted_twice :
    (∃ s, Trace CheckStep (.resting openDefense .empty) overlappingEvents s ∧
      InWindow "m1" overlappingEvents ∧ NotBypassed "m1" overlappingEvents ∧
      admissions "m1" overlappingEvents = [.admitted 0 "m1" 5, .admitted 1 "m1" 6]) ∧
    ∃ events s s', events = admissionEvents 0 5 ++ [.restarted] ++ admissionEvents 1 6 ∧
      Trace CheckStep (.resting openDefense .empty) (admissionEvents 0 5 ++ [.restarted]) s ∧
      s.seenEntries.get? "m1" = some 5 ∧ Trace CheckStep s (admissionEvents 1 6) s' ∧
      InWindow "m1" events ∧ NotBypassed "m1" events ∧
      admissions "m1" events = [.admitted 0 "m1" 5, .admitted 1 "m1" 6] := by
  refine ⟨?_, ?_⟩
  · obtain ⟨s, hrun⟩ := overlapping_run
    refine ⟨s, hrun, .of_short (by decide) fun cutoff hmem => ?_, fun task now hmem => ?_, rfl⟩
    · simp [overlappingEvents] at hmem
    · simp [overlappingEvents] at hmem
  · obtain ⟨s, hfirst, hseen, hdefense⟩ :=
      admission_run (.resting openDefense .empty) 0 5 (fun _ => rfl) rfl
    obtain ⟨s', hsecond, _⟩ := admission_run s.restart 1 6 (fun _ => rfl) hdefense
    refine ⟨_, s.restart, s', rfl, hfirst.trace.snoc .restarted, ?_, hsecond.trace,
      .of_short (show 11 < MAX_SEEN_CACHE by decide) fun cutoff hmem => ?_,
      fun task now hmem => ?_, rfl⟩
    · show s.seenEntries.get? "m1" = some 5
      rw [hseen]
      exact Record.get?_set_self ..
    · simp [admissionEvents] at hmem
    · simp [admissionEvents] at hmem

end QuadraA.Messaging
