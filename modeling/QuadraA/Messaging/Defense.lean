import QuadraA.Messaging.MessageStorage

/-!
# The defence of the inbox

`trust/index.ts`, `trust/sybil-defense.ts` and `messaging/defense.ts`: the interactions that the
trust system records of a peer, and the checks that a message passes before it is queued.

* `recordInteraction` — one interaction, and one more request in the window of its agent;
* `rateLimits_recordInteraction_ne` — no interaction is recorded without a trace.

The trust score and the token bucket of a peer are readings of the check.
-/

namespace QuadraA.Messaging

open QuadraA.Lib

/-! ### Trust records -/

/-- Why an interaction failed. -/
inductive RejectionReason where
  | blocked
  | duplicate
  | rateLimited
  | trustTooLow
deriving DecidableEq

def RejectionReason.text : RejectionReason → String
  | .blocked => "blocked"
  | .duplicate => "duplicate"
  | .rateLimited => "rate_limited"
  | .trustTooLow => "trust_too_low"

structure Interaction where
  agentDid : String
  timestamp : ℕ
  type : String
  success : Bool
  responseTime : ℕ
  failureReason : Option String
deriving DecidableEq

structure RateLimitRecord where
  requests : List ℕ
  firstSeen : ℕ
deriving DecidableEq

/-- What the trust system keeps of its peers: `interaction:{did}:{timestamp}` in the database, and
the requests of each peer in memory. -/
structure TrustRecords where
  history : Record String Interaction
  rateLimits : Record String RateLimitRecord
deriving DecidableEq

def NEW_AGENT_WINDOW : ℕ := 24 * 60 * 60 * 1000
def RATE_LIMIT_WINDOW : ℕ := 60 * 60 * 1000
def MAX_REQUESTS_NEW : ℕ := 10

def interactionKey (interaction : Interaction) : String :=
  "interaction:" ++ interaction.agentDid ++ ":" ++ toString interaction.timestamp

/-- The requests that are still in the window. -/
def recentRequests (requests : List ℕ) (now : ℕ) : List ℕ :=
  requests.filter fun t => now - t < RATE_LIMIT_WINDOW

def TrustRecords.isRateLimited (trust : TrustRecords) (did : String) (now : ℕ) : Bool :=
  match trust.rateLimits.get? did with
  | none => false
  | some record =>
      if NEW_AGENT_WINDOW < now - record.firstSeen then false
      else MAX_REQUESTS_NEW ≤ (recentRequests record.requests now).length

/-- `recordRequest` of the sybil defence. -/
def recordRequest (rateLimits : Record String RateLimitRecord) (did : String) (now : ℕ) :
    Record String RateLimitRecord :=
  let record := (rateLimits.get? did).getD { requests := [], firstSeen := now }
  rateLimits.set did
    { record with requests := recentRequests (record.requests ++ [now]) now }

def recordInteraction (trust : TrustRecords) (interaction : Interaction) (now : ℕ) :
    TrustRecords where
  history := trust.history.set (interactionKey interaction) interaction
  rateLimits := recordRequest trust.rateLimits interaction.agentDid now

/-- A window never reads as it did before a request came in. -/
theorem recentRequests_snoc_ne (requests : List ℕ) (now : ℕ) :
    recentRequests (requests ++ [now]) now ≠ requests := by
  intro h
  have hnow : recentRequests (requests ++ [now]) now = recentRequests requests now ++ [now] := by
    rw [recentRequests, List.filter_append]
    simp [recentRequests, RATE_LIMIT_WINDOW]
  rw [hnow] at h
  -- what was there is in the window, so it is all still there, with one request more
  have hall : ∀ t ∈ requests, now - t < RATE_LIMIT_WINDOW := by
    intro t ht
    rw [← h, List.mem_append, List.mem_singleton] at ht
    rcases ht with ht | rfl
    · simpa using (List.mem_filter.mp ht).2
    · simp [RATE_LIMIT_WINDOW]
  have hkept : recentRequests requests now = requests := by
    rw [recentRequests, List.filter_eq_self]
    simpa using hall
  rw [hkept] at h
  have hlength := congrArg List.length h
  rw [List.length_append, List.length_singleton] at hlength
  omega

/-- **Every interaction leaves a trace** in the requests of its agent. -/
theorem rateLimits_recordInteraction_ne (trust : TrustRecords) (interaction : Interaction)
    (now : ℕ) : recordInteraction trust interaction now ≠ trust := by
  intro h
  have hrecord := congrArg (fun trust => trust.rateLimits.get? interaction.agentDid) h
  simp only [recordInteraction, recordRequest, Record.get?_set_self] at hrecord
  rw [← hrecord, Option.getD_some] at hrecord
  exact recentRequests_snoc_ne _ now (congrArg RateLimitRecord.requests (Option.some.inj hrecord))

/-! ### The check -/

/-- What the check reads of `getTrustScore`; `failurePercent` is the text of the failure rate. -/
structure TrustScore where
  interactionScore : Float
  status : String
  totalInteractions : ℕ
  recentSuccessRate : Float
  failurePercent : String

structure BlocklistEntry where
  did : String
  reason : String
  blockedAt : ℕ
  blockedBy : String
deriving DecidableEq

/-- **The state of the defence**: the lists in the database, and the maps in memory. -/
structure DefenseState where
  allowlist : Record String Unit
  blocklist : Record String BlocklistEntry
  seenCache : Record String ℕ
  recentlyUnblocked : Record String ℕ
  minTrustScore : Float

def MAX_SEEN_CACHE : ℕ := 10000
def UNBLOCK_GRACE_PERIOD_MS : ℕ := 60 * 60 * 1000

/-- What a check reads beyond the state: the clock, the trust score (`none` when the lookup throws)
and the token bucket. -/
structure DefenseReadings where
  now : ℕ
  trustScore : Option TrustScore
  bucketAllows : Bool

inductive DefenseResult where
  | allowed (trustScore : Option Float) (trustStatus : String)
  | rejected (reason : RejectionReason) (trustScore : Option Float)

def markAsSeen (defense : DefenseState) (messageId : String) (now : ℕ) : DefenseState :=
  let kept :=
    if MAX_SEEN_CACHE ≤ defense.seenCache.keys.length then
      match defense.seenCache.keys with
      | [] => defense.seenCache
      | firstKey :: _ =>
          if firstKey = "" then defense.seenCache else defense.seenCache.erase firstKey
    else defense.seenCache
  { defense with seenCache := kept.set messageId now }

def isAutoBlock (reason : String) : Bool := "Auto-blocked: ".toList.isPrefixOf reason.toList

/-- Whether the blocklist rejects; an automatic block does not hold against a solicited reply. -/
def DefenseState.blocks (defense : DefenseState) (did : String) (solicitedReply : Bool) : Bool :=
  match defense.blocklist.get? did with
  | none => false
  | some entry => !(solicitedReply && isAutoBlock entry.reason)

def DefenseState.inGracePeriod (defense : DefenseState) (did : String) (now : ℕ) : Bool :=
  match defense.recentlyUnblocked.get? did with
  | none => false
  | some unblockTime => unblockTime ≠ 0 && now - unblockTime < UNBLOCK_GRACE_PERIOD_MS

def blockAgent (defense : DefenseState) (did reason : String) (now : ℕ) : DefenseState :=
  { defense with
    blocklist := defense.blocklist.set did
      { did, reason, blockedAt := now, blockedBy := "local" } }

/-- The score to go on with: a suspicious agent gets the strictest tier. -/
def TrustScore.effective (score : TrustScore) (solicitedReply : Bool) : Float :=
  if !solicitedReply && 10 ≤ score.totalInteractions && 0.5 < 1 - score.recentSuccessRate then 0
  else score.interactionScore

def TrustScore.autoBlocks (score : TrustScore) (solicitedReply inGracePeriod : Bool) : Bool :=
  !solicitedReply && 20 ≤ score.totalInteractions && 0.7 < 1 - score.recentSuccessRate
    && !inGracePeriod

/-- Step 4 of the check: the score and status to go on with, or the rejection. -/
def checkTrust (defense : DefenseState) (did : String) (solicitedReply : Bool)
    (readings : DefenseReadings) : Except DefenseResult (Float × String) × DefenseState :=
  match readings.trustScore with
  | none => (.ok (0, "unknown"), defense)
  | some score =>
      let trustScore := score.effective solicitedReply
      if score.autoBlocks solicitedReply (defense.inGracePeriod did readings.now) then
        (.error (.rejected .blocked none), blockAgent defense did
          ("Auto-blocked: " ++ score.failurePercent ++ "% failure rate over last 20 interactions")
          readings.now)
      else if !solicitedReply && trustScore < defense.minTrustScore then
        (.error (.rejected .trustTooLow (some trustScore)), defense)
      else (.ok (trustScore, score.status), defense)

/-- **The check** of an inbound message, in the order of its steps. -/
def checkMessage (defense : DefenseState) (trust : TrustRecords) (id did : String)
    (solicitedReply : Bool) (readings : DefenseReadings) : DefenseResult × DefenseState :=
  if (defense.allowlist.get? did).isSome then
    (.allowed none "allowed", markAsSeen defense id readings.now)
  else if defense.blocks did solicitedReply then (.rejected .blocked none, defense)
  else if !solicitedReply && trust.isRateLimited did readings.now then
    (.rejected .rateLimited none, defense)
  else if (defense.seenCache.get? id).isSome then (.rejected .duplicate none, defense)
  else
    match checkTrust defense did solicitedReply readings with
    | (.error rejection, defense) => (rejection, defense)
    | (.ok (trustScore, trustStatus), defense) =>
        if !solicitedReply && !readings.bucketAllows then (.rejected .rateLimited none, defense)
        else
          (.allowed (some trustScore) trustStatus, markAsSeen defense id readings.now)

/-- A message that the check calls a duplicate: of a sender that is neither allowed nor blocked nor
over its requests, with an id that was seen. -/
def IsDuplicate (defense : DefenseState) (trust : TrustRecords) (id did : String)
    (solicitedReply : Bool) (now : ℕ) : Prop :=
  defense.allowlist.get? did = none ∧ defense.blocks did solicitedReply = false ∧
    (solicitedReply = true ∨ trust.isRateLimited did now = false) ∧
    (defense.seenCache.get? id).isSome = true

variable {defense : DefenseState} {did : String} {solicitedReply : Bool}
  {readings : DefenseReadings}

theorem checkTrust_error {rejection : DefenseResult}
    (h : (checkTrust defense did solicitedReply readings).1 = .error rejection) :
    rejection = .rejected .blocked none ∨ ∃ score, rejection = .rejected .trustTooLow score := by
  rw [checkTrust] at h
  split at h
  · cases h
  · dsimp only at h
    split at h
    · obtain rfl := Except.error.inj h
      exact Or.inl rfl
    · split at h
      · obtain rfl := Except.error.inj h
        exact Or.inr ⟨_, rfl⟩
      · cases h

/-- **A duplicate** is rejected as one, and nothing else is. -/
theorem checkMessage_duplicate_iff (defense : DefenseState) (trust : TrustRecords) (id did : String)
    (solicitedReply : Bool) (readings : DefenseReadings) :
    (∃ score, (checkMessage defense trust id did solicitedReply readings).1
        = .rejected .duplicate score) ↔
      IsDuplicate defense trust id did solicitedReply readings.now := by
  rw [checkMessage, IsDuplicate]
  by_cases hallowed : (defense.allowlist.get? did).isSome
  · rw [if_pos hallowed]
    constructor
    · rintro ⟨_, h⟩
      cases h
    · rintro ⟨hnone, _⟩
      rw [hnone] at hallowed
      cases hallowed
  rw [if_neg hallowed]
  have hnone : defense.allowlist.get? did = none := by simpa using hallowed
  by_cases hblocks : defense.blocks did solicitedReply
  · rw [if_pos hblocks]
    constructor
    · rintro ⟨_, h⟩
      cases h
    · rintro ⟨_, hfree, _⟩
      rw [hfree] at hblocks
      cases hblocks
  rw [if_neg hblocks]
  have hfree : defense.blocks did solicitedReply = false := by simpa using hblocks
  by_cases hlimited : (!solicitedReply && trust.isRateLimited did readings.now) = true
  · rw [if_pos hlimited]
    rw [Bool.and_eq_true, Bool.not_eq_true'] at hlimited
    constructor
    · rintro ⟨_, h⟩
      cases h
    · rintro ⟨_, _, hwithin, _⟩
      rcases hwithin with hwithin | hwithin
      · rw [hlimited.1] at hwithin
        cases hwithin
      · rw [hlimited.2] at hwithin
        cases hwithin
  rw [if_neg hlimited]
  have hwithin : solicitedReply = true ∨ trust.isRateLimited did readings.now = false := by
    cases solicitedReply with
    | true => exact Or.inl rfl
    | false => exact Or.inr (by simpa using hlimited)
  by_cases hseen : (defense.seenCache.get? id).isSome = true
  · rw [if_pos hseen]
    exact ⟨fun _ => ⟨hnone, hfree, hwithin, hseen⟩, fun _ => ⟨none, rfl⟩⟩
  rw [if_neg hseen]
  refine ⟨fun hduplicate => ?_, fun h => absurd h.2.2.2 hseen⟩
  exfalso
  obtain ⟨score, h⟩ := hduplicate
  generalize hcheck : checkTrust defense did solicitedReply readings = checked at h
  obtain ⟨outcome, checkedDefense⟩ := checked
  cases outcome with
  | error rejection =>
    have hrejection : rejection = .rejected .duplicate score := h
    rcases checkTrust_error (by rw [hcheck]) with heq | ⟨_, heq⟩
    · rw [heq] at hrejection
      cases hrejection
    · rw [heq] at hrejection
      cases hrejection
  | ok passed =>
    dsimp only at h
    split at h
    · cases h
    · cases h

/-- A duplicate leaves the defence as it is. -/
theorem checkMessage_of_duplicate {trust : TrustRecords} {id : String}
    (h : IsDuplicate defense trust id did solicitedReply readings.now) :
    checkMessage defense trust id did solicitedReply readings
      = (.rejected .duplicate none, defense) := by
  obtain ⟨hnone, hfree, hwithin, hseen⟩ := h
  have hlimited : (!solicitedReply && trust.isRateLimited did readings.now) = false := by
    rcases hwithin with rfl | hwithin
    · rfl
    · rw [hwithin, Bool.and_false]
  rw [checkMessage, if_neg (by simp [hnone]), if_neg (by simp [hfree]), if_neg (by simp [hlimited]),
    if_pos hseen]

end QuadraA.Messaging
