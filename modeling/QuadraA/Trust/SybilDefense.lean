import Mathlib.Data.List.Induction
import QuadraA.Messaging.Defense

/-!
# New agents and the clean-up of their records

`trust/sybil-defense.ts`: the requests of an agent are counted in its first day, and `cleanup`
deletes the records of the agents that are older.

* `cleanup`, `stepSybil` — what a request and a clean-up do to the records;
* `aged_agent_exempt_iff` — so an agent that comes back after a clean-up is new again.
-/

namespace QuadraA.Trust

open QuadraA.Lib QuadraA.Messaging

/-! ### The records -/

/-- `record.firstSeen < cutoff`. -/
def isBeforeCutoff (now firstSeen : ℕ) : Bool := decide (firstSeen < now - NEW_AGENT_WINDOW)

/-- `cleanup`: the records that began before the cutoff are deleted. -/
def cleanup (rateLimits : Record String RateLimitRecord) (now : ℕ) :
    Record String RateLimitRecord :=
  rateLimits.filterKeys fun did =>
    !((rateLimits.get? did).map RateLimitRecord.firstSeen).any (isBeforeCutoff now)

/-- What changes the records, and when. -/
inductive SybilEvent where
  | recordRequest (did : String) (now : ℕ)
  | cleanup (now : ℕ)
deriving DecidableEq

def SybilEvent.time : SybilEvent → ℕ
  | .recordRequest _ now => now
  | .cleanup now => now

def stepSybil (trust : TrustRecords) : SybilEvent → TrustRecords
  | .recordRequest did now => { trust with rateLimits := recordRequest trust.rateLimits did now }
  | .cleanup now => { trust with rateLimits := cleanup trust.rateLimits now }

/-- The records after some events; a defence starts with none. -/
def runSybil (history : Record String Messaging.Interaction) (events : List SybilEvent) :
    TrustRecords :=
  events.foldl stepSybil { history, rateLimits := .empty }

/-- The clock does not go back, and has not passed `now`. -/
structure InTime (events : List SybilEvent) (now : ℕ) : Prop where
  sorted : events.Pairwise fun event later => event.time ≤ later.time
  past : ∀ event ∈ events, event.time ≤ now

instance (events : List SybilEvent) (now : ℕ) : Decidable (InTime events now) :=
  decidable_of_iff
    ((events.Pairwise fun event later => event.time ≤ later.time) ∧
      ∀ event ∈ events, event.time ≤ now)
    ⟨fun h => ⟨h.1, h.2⟩, fun h => ⟨h.sorted, h.past⟩⟩

/-! ### What the limit is for -/

def SybilEvent.requestTime? (did : String) : SybilEvent → Option ℕ
  | .recordRequest other now => if other = did then some now else none
  | .cleanup _ => none

/-- **All requests** of an agent, first to last. -/
def requestTimes (did : String) (events : List SybilEvent) : List ℕ :=
  events.filterMap (SybilEvent.requestTime? did)

/-- An agent whose first request is no older than the window, with too many recent ones. -/
def limitedBy (times : List ℕ) (now : ℕ) : Bool :=
  times.head?.any (fun first => now - first ≤ NEW_AGENT_WINDOW) &&
    decide (MAX_REQUESTS_NEW ≤ (recentRequests times now).length)

/-- **The limit of new agents**: it goes by all requests. -/
def shouldLimit (did : String) (events : List SybilEvent) (now : ℕ) : Bool :=
  limitedBy (requestTimes did events) now

/-- The first request is older than the window. -/
def isAged (did : String) (events : List SybilEvent) (now : ℕ) : Bool :=
  (requestTimes did events).head?.any fun first => NEW_AGENT_WINDOW < now - first

/-- One event, and the requests that are remembered: a clean-up past the first day forgets them. -/
def rememberTimes (did : String) (times : List ℕ) : SybilEvent → List ℕ
  | .recordRequest other now => if other = did then times ++ [now] else times
  | .cleanup now =>
      if times.head?.any (isBeforeCutoff now) then [] else times

/-- **The requests since the record was last deleted.** -/
def timesSinceDeleted (did : String) (events : List SybilEvent) : List ℕ :=
  events.foldl (rememberTimes did) []

/-- **An aged agent that is new again**: past its first day, but not since its record was deleted,
and since then with too many requests in the last hour. -/
structure IsNewAgain (did : String) (events : List SybilEvent) (now : ℕ) : Prop where
  aged : isAged did events now = true
  since : ∃ first, (timesSinceDeleted did events).head? = some first ∧
    now - first ≤ NEW_AGENT_WINDOW
  requests : MAX_REQUESTS_NEW ≤ (recentRequests (timesSinceDeleted did events) now).length

theorem isNewAgain_iff :
    IsNewAgain did events now ↔ isAged did events now = true ∧
      limitedBy (timesSinceDeleted did events) now = true := by
  have hsince : (timesSinceDeleted did events).head?.any
        (fun first => decide (now - first ≤ NEW_AGENT_WINDOW)) = true ↔
      ∃ first, (timesSinceDeleted did events).head? = some first ∧
        now - first ≤ NEW_AGENT_WINDOW := by
    rw [Option.any_eq_true]
    simp only [decide_eq_true_eq]
  rw [limitedBy, Bool.and_eq_true, hsince, decide_eq_true_eq]
  exact ⟨fun h => ⟨h.aged, h.since, h.requests⟩, fun ⟨haged, hfirst, hrequests⟩ =>
    ⟨haged, hfirst, hrequests⟩⟩

/-! ### One step -/

/-- The record of an agent stands for these requests, at all times from `since` on. -/
def StandsFor (record : Option RateLimitRecord) (times : List ℕ) (since : ℕ) : Prop :=
  record.map RateLimitRecord.firstSeen = times.head? ∧
    ∀ now, since ≤ now →
      recentRequests ((record.map RateLimitRecord.requests).getD []) now = recentRequests times now

theorem recentRequests_append (times times' : List ℕ) (now : ℕ) :
    recentRequests (times ++ times') now = recentRequests times now ++ recentRequests times' now :=
  List.filter_append ..

/-- What has left the window does not come back to it. -/
theorem recentRequests_recentRequests (times : List ℕ) {later : ℕ} (h : now ≤ later) :
    recentRequests (recentRequests times now) later = recentRequests times later := by
  rw [recentRequests, recentRequests, recentRequests, List.filter_filter]
  refine List.filter_congr fun t _ => ?_
  rw [← Bool.decide_and, decide_eq_decide]
  omega

variable {times : List ℕ} {since : ℕ}

theorem StandsFor.mono {record : Option RateLimitRecord} (h : StandsFor record times since)
    (hle : since ≤ now) : StandsFor record times now :=
  ⟨h.1, fun later hlater => h.2 later (hle.trans hlater)⟩

/-- **A request** is pushed, and what has left the window is dropped. -/
theorem StandsFor.recordRequest {record : Option RateLimitRecord} (h : StandsFor record times since)
    (hle : since ≤ now) :
    StandsFor
      (some
        { (record.getD { requests := [], firstSeen := now }) with
          requests := recentRequests
            ((record.getD { requests := [], firstSeen := now }).requests ++ [now]) now })
      (times ++ [now]) now := by
  obtain ⟨hfirst, hrecent⟩ := h
  refine ⟨?_, fun later hlater => ?_⟩
  · cases record with
    | none =>
      have hnil : times = [] := List.head?_eq_none_iff.mp hfirst.symm
      rw [hnil]
      rfl
    | some record =>
      have hhead : times.head? = some record.firstSeen := hfirst.symm
      rw [List.head?_append, hhead]
      rfl
  · show recentRequests (recentRequests _ now) later = _
    rw [recentRequests_recentRequests _ hlater, recentRequests_append, recentRequests_append,
      ← hrecent later (hle.trans hlater)]
    cases record <;> rfl

/-- One event keeps what the record of an agent stands for. -/
theorem standsFor_step (trust : TrustRecords) (did : String) (event : SybilEvent)
    (h : StandsFor (trust.rateLimits.get? did) times since) (hle : since ≤ event.time) :
    StandsFor ((stepSybil trust event).rateLimits.get? did) (rememberTimes did times event)
      event.time := by
  cases event with
  | recordRequest other now =>
    show StandsFor ((Messaging.recordRequest trust.rateLimits other now).get? did)
      (if other = did then times ++ [now] else times) now
    rw [Messaging.recordRequest]
    by_cases hother : other = did
    · rw [if_pos hother, hother, Record.get?_set_self]
      exact h.recordRequest hle
    · rw [if_neg hother, Record.get?_set_ne _ _ hother]
      exact h.mono hle
  | cleanup now =>
    show StandsFor ((cleanup trust.rateLimits now).get? did)
      (if times.head?.any (isBeforeCutoff now) then [] else times) now
    rw [cleanup, Record.get?_filterKeys, h.1]
    cases times.head?.any (isBeforeCutoff now) with
    | true =>
      rw [if_pos rfl, Bool.not_true, if_neg Bool.false_ne_true]
      exact ⟨rfl, fun _ _ => rfl⟩
    | false =>
      rw [if_neg Bool.false_ne_true, Bool.not_false, if_pos rfl]
      exact h.mono hle

/-! ### Whole runs -/

variable {history : Record String Messaging.Interaction} {did : String}
  {events : List SybilEvent} {now : ℕ}

theorem InTime.append {event : SybilEvent} (h : InTime (events ++ [event]) now) :
    InTime events event.time ∧ event.time ≤ now := by
  obtain ⟨hsorted, -, hlast⟩ := List.pairwise_append.mp h.sorted
  exact ⟨⟨hsorted, fun before hbefore => hlast before hbefore event (List.mem_singleton_self _)⟩,
    h.past event (by simp)⟩

theorem runSybil_append (event : SybilEvent) :
    runSybil history (events ++ [event]) = stepSybil (runSybil history events) event :=
  List.foldl_concat ..

theorem timesSinceDeleted_append (event : SybilEvent) :
    timesSinceDeleted did (events ++ [event])
      = rememberTimes did (timesSinceDeleted did events) event :=
  List.foldl_concat ..

theorem requestTimes_append (event : SybilEvent) :
    requestTimes did (events ++ [event])
      = requestTimes did events ++ (event.requestTime? did).toList := by
  rw [requestTimes, List.filterMap_append]
  cases hrequest : event.requestTime? did <;> simp [requestTimes, hrequest]

/-- **The record of an agent** stands for its requests since the record was last deleted. -/
theorem standsFor_runSybil (h : InTime events now) :
    StandsFor ((runSybil history events).rateLimits.get? did) (timesSinceDeleted did events)
      now := by
  induction events using List.reverseRecOn generalizing now with
  | nil => exact ⟨rfl, fun _ _ => rfl⟩
  | append_singleton events event ih =>
    obtain ⟨hbefore, hnow⟩ := h.append
    rw [runSybil_append, timesSinceDeleted_append]
    exact (standsFor_step _ did event (ih hbefore) le_rfl).mono hnow

/-- **The defence goes by the requests since then.** -/
theorem isRateLimited_runSybil (h : InTime events now) :
    (runSybil history events).isRateLimited did now
      = limitedBy (timesSinceDeleted did events) now := by
  have hstands : StandsFor ((runSybil history events).rateLimits.get? did)
      (timesSinceDeleted did events) now := standsFor_runSybil h
  obtain ⟨hfirst, hrecent⟩ := hstands
  rw [TrustRecords.isRateLimited, limitedBy, ← hfirst, ← hrecent now le_rfl]
  cases (runSybil history events).rateLimits.get? did with
  | none => rfl
  | some record =>
    show (if NEW_AGENT_WINDOW < now - record.firstSeen then false else _) = _
    by_cases haged : NEW_AGENT_WINDOW < now - record.firstSeen
    · rw [if_pos haged, Option.map_some, Option.any_some, decide_eq_false (by omega),
        Bool.false_and]
    · rw [if_neg haged, Option.map_some, Option.any_some, decide_eq_true (not_lt.mp haged),
        Bool.true_and]
      rfl

/-- An agent in its first day is not forgotten. -/
theorem timesSinceDeleted_of_new (h : InTime events now) (hnew : isAged did events now = false) :
    timesSinceDeleted did events = requestTimes did events := by
  induction events using List.reverseRecOn generalizing now with
  | nil => rfl
  | append_singleton events event ih =>
    obtain ⟨hbefore, hnow⟩ := h.append
    have hnew' : isAged did events event.time = false := by
      rw [isAged, requestTimes_append, List.head?_append] at hnew
      rw [isAged]
      cases hhead : (requestTimes did events).head? with
      | none => rfl
      | some first =>
        rw [hhead] at hnew
        have hwithin : now - first ≤ NEW_AGENT_WINDOW := by simpa using hnew
        simp only [Option.any_some, decide_eq_false_iff_not]
        omega
    rw [timesSinceDeleted_append, requestTimes_append, ih hbefore hnew']
    cases event with
    | recordRequest other t =>
      rw [rememberTimes, SybilEvent.requestTime?]
      split
      · rfl
      · rw [Option.toList_none, List.append_nil]
    | cleanup t =>
      rw [rememberTimes, SybilEvent.requestTime?, Option.toList_none, List.append_nil]
      refine if_neg ?_
      rw [Bool.not_eq_true]
      -- a first request that the clean-up takes for old is more than a day before it
      rw [isAged] at hnew'
      cases hhead : (requestTimes did events).head? with
      | none => rfl
      | some first =>
        rw [hhead] at hnew'
        have hwithin : ¬NEW_AGENT_WINDOW < t - first := of_decide_eq_false hnew'
        rw [Option.any_some, isBeforeCutoff, decide_eq_false_iff_not]
        omega

/-- No limit is due to an agent that is past its first day. -/
theorem shouldLimit_of_aged (haged : isAged did events now = true) :
    shouldLimit did events now = false := by
  rw [shouldLimit, limitedBy]
  rw [isAged] at haged
  cases hhead : (requestTimes did events).head? with
  | none => rfl
  | some first =>
    rw [hhead] at haged
    have hpast : NEW_AGENT_WINDOW < now - first := by simpa using haged
    rw [Option.any_some, decide_eq_false (by omega), Bool.false_and]

/-- **Aged agents are exempt**, and new ones limited by all their requests, unless an aged one is
new again after a clean-up. -/
theorem aged_agent_exempt_iff (history : Record String Messaging.Interaction) (did : String)
    {events : List SybilEvent} {now : ℕ} (h : InTime events now) :
    (runSybil history events).isRateLimited did now = shouldLimit did events now ↔
      ¬IsNewAgain did events now := by
  rw [isRateLimited_runSybil h, isNewAgain_iff]
  cases hnew : isAged did events now with
  | false =>
    rw [shouldLimit, timesSinceDeleted_of_new h hnew]
    simp
  | true =>
    rw [shouldLimit_of_aged hnew]
    simp

/-- An agent that is seen on one day, cleaned up after, and sends ten requests at once. -/
def returningAgent : List SybilEvent :=
  .recordRequest "did:agent:zA" 0 :: .cleanup 86400001 ::
    List.replicate 10 (.recordRequest "did:agent:zA" 86400002)

theorem aged_agent_exempt_sample :
    InTime returningAgent 86400002 ∧
      ((runSybil .empty returningAgent).isRateLimited "did:agent:zB" 86400002
          = shouldLimit "did:agent:zB" returningAgent 86400002 ↔
        ¬IsNewAgain "did:agent:zB" returningAgent 86400002) := by
  have h : InTime returningAgent 86400002 := by decide +kernel
  exact ⟨h, aged_agent_exempt_iff .empty "did:agent:zB" h⟩

/-- **The agent that came back is limited**, more than a day after its first request. -/
theorem returning_agent_limited :
    InTime returningAgent 86400002 ∧ isAged "did:agent:zA" returningAgent 86400002 = true ∧
      shouldLimit "did:agent:zA" returningAgent 86400002 = false ∧
      (runSybil .empty returningAgent).isRateLimited "did:agent:zA" 86400002 = true := by
  decide +kernel

end QuadraA.Trust
