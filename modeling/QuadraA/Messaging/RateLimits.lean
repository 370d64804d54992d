import Mathlib.Tactic.Linarith
import Mathlib.Tactic.Ring

/-!
# The rate limit of a sender

`rate-limiter.ts` and the `checkRateLimit` and `cleanupRateLimits` of `defense.ts`, over any order
of calls, changes of trust, restarts and clean-ups.

* `allowed_within_tier` — the limit of a tier holds wherever no step finds more tokens than the
  tier has left;
* `bucket_of_earlier_tier` — a bucket keeps the capacity it was made with when the trust is gone.

All is kept by sender, in memory and under `rate:{did}`, so the model follows one sender. Times are
milliseconds and tokens are rationals: the rounding of the code's doubles is left out, and so are
the figures of a result that only report the bucket.
-/

namespace QuadraA.Messaging

/-! ### Token buckets -/

structure TokenBucketConfig where
  capacity : ℚ
  refillRate : ℚ
  capacity_nonneg : 0 ≤ capacity
  refillRate_nonneg : 0 ≤ refillRate
deriving DecidableEq

/-- What `toState` gives, and what is stored. -/
structure RateLimitState where
  tokens : ℚ
  lastRefill : ℕ
deriving DecidableEq

structure TokenBucket extends RateLimitState where
  config : TokenBucketConfig
deriving DecidableEq

/-- The `refill` of a state under a configuration. -/
def refilled (config : TokenBucketConfig) (s : RateLimitState) (now : ℕ) : RateLimitState :=
  let elapsed : ℚ := now - s.lastRefill
  { tokens := min config.capacity (s.tokens + elapsed * config.refillRate)
    lastRefill := now }

namespace TokenBucket

/-- The constructor: a full bucket, where no state was stored. -/
def create (config : TokenBucketConfig) (persisted : Option RateLimitState) (now : ℕ) :
    TokenBucket :=
  { toRateLimitState := persisted.getD { tokens := config.capacity, lastRefill := now }
    config := config }

def refill (b : TokenBucket) (now : ℕ) : TokenBucket :=
  { b with toRateLimitState := refilled b.config b.toRateLimitState now }

def consume (b : TokenBucket) (now : ℕ) : TokenBucket × Bool :=
  let b := b.refill now
  if 1 ≤ b.tokens then ({ b with tokens := b.tokens - 1 }, true) else (b, false)

end TokenBucket

/-! ### Tiers -/

inductive Tier where
  | newAgent
  | established
  | trusted
deriving DecidableEq

structure RateLimitTiers where
  newAgent : TokenBucketConfig
  established : TokenBucketConfig
  trusted : TokenBucketConfig

def RateLimitTiers.config (tiers : RateLimitTiers) : Tier → TokenBucketConfig
  | .newAgent => tiers.newAgent
  | .established => tiers.established
  | .trusted => tiers.trusted

def DEFAULT_RATE_LIMIT_TIERS : RateLimitTiers where
  newAgent := ⟨10, 10 / (60 * 1000), by norm_num, by norm_num⟩
  established := ⟨100, 60 / (60 * 1000), by norm_num, by norm_num⟩
  trusted := ⟨1000, 600 / (60 * 1000), by norm_num, by norm_num⟩

def getTierConfig (trustScore : ℚ) (tiers : RateLimitTiers) : TokenBucketConfig :=
  if 6 / 10 ≤ trustScore then tiers.trusted
  else if 3 / 10 ≤ trustScore then tiers.established
  else tiers.newAgent

/-- The tier that a trust score is in. -/
def tierOf (trustScore : ℚ) : Tier :=
  if 6 / 10 ≤ trustScore then .trusted
  else if 3 / 10 ≤ trustScore then .established
  else .newAgent

theorem getTierConfig_eq (trustScore : ℚ) (tiers : RateLimitTiers) :
    getTierConfig trustScore tiers = tiers.config (tierOf trustScore) := by
  unfold getTierConfig tierOf
  split
  · rfl
  · split <;> rfl

/-- What the trust system says of a sender. -/
structure TrustReading where
  interactionScore : ℚ
  totalInteractions : ℕ
  recentSuccessRate : ℚ

/-- **The score that a message is limited by**: none without a reading, and none for a suspicious
agent, whatever its own score is. -/
def ingressTrust : Option TrustReading → ℚ
  | none => 0
  | some score =>
      let recentFailureRate := 1 - score.recentSuccessRate
      if 10 ≤ score.totalInteractions ∧ 1 / 2 < recentFailureRate then 0
      else score.interactionScore

/-! ### The limiter -/

/-- A call that waits for the stored state, with the tier it was made in. -/
structure RateLimitCall where
  tierConfig : TokenBucketConfig
  persisted : Option (Option RateLimitState)

/-- **A clean-up of the stored states**: the scan for those that are stale, from the time of the
clean-up, and then the deletion. -/
inductive Cleanup where
  | scanning (since : ℕ)
  | deleting
deriving DecidableEq

/-- A bucket in memory, with the state that its last call handed to the store: only the proofs read
that one. -/
structure LiveBucket where
  bucket : TokenBucket
  handed : RateLimitState

structure Limiter where
  now : ℕ
  trustScore : ℚ
  bucket : Option LiveBucket
  stored : Option RateLimitState
  calls : List RateLimitCall
  puts : List RateLimitState
  cleanups : List Cleanup

inductive LimiterStep where
  /-- the clock goes on -/
  | tick (ms : ℕ)
  /-- the trust system has a new reading -/
  | trust (reading : Option TrustReading)
  /-- `checkRateLimit`, up to its first await -/
  | call
  /-- the database answers a call -/
  | read (i : ℕ)
  /-- the call goes on with what it read -/
  | resume (i : ℕ)
  /-- the database takes a state -/
  | write (i : ℕ)
  /-- `getRemaining` and `getResetTime` of a result -/
  | report
  /-- the daemon starts again -/
  | restart
  /-- `cleanupRateLimits`, up to its await -/
  | cleanup
  /-- a clean-up reads the stored state -/
  | scan (i : ℕ)
  /-- a clean-up deletes what it found -/
  | delete (i : ℕ)

/-- 24 hours. -/
def STALE_MS : ℕ := 24 * 60 * 60 * 1000

def isStale (s : RateLimitState) (since : ℕ) : Bool := s.lastRefill + STALE_MS < since

namespace Limiter

/-- A limiter without any state, at some time and with some score. -/
def initial (now : ℕ) (trustScore : ℚ) : Limiter :=
  { now := now, trustScore := trustScore, bucket := none, stored := none, calls := []
    puts := [], cleanups := [] }

/-- A token of a bucket, which is in memory from then on and is to be stored. -/
def consume (l : Limiter) (b : TokenBucket) : Limiter × Bool :=
  let taken := b.consume l.now
  let state := taken.1.toRateLimitState
  ({ l with bucket := some ⟨taken.1, state⟩, puts := l.puts ++ [state] }, taken.2)

/-- **One step**, and whether it lets a call through. -/
def step (tiers : RateLimitTiers) (l : Limiter) : LimiterStep → Limiter × Bool
  | .tick ms => ({ l with now := l.now + ms }, false)
  | .trust reading => ({ l with trustScore := ingressTrust reading }, false)
  | .call =>
      let tierConfig := getTierConfig l.trustScore tiers
      match l.bucket with
      | some b => l.consume b.bucket
      | none =>
          ({ l with calls := l.calls ++ [{ tierConfig := tierConfig, persisted := none }] }, false)
  | .read i =>
      let answered (c : RateLimitCall) := { c with persisted := c.persisted.or (some l.stored) }
      ({ l with calls := l.calls.modify i answered }, false)
  | .resume i =>
      match l.calls[i]? with
      | some ⟨tierConfig, some persisted⟩ =>
          consume { l with calls := l.calls.eraseIdx i }
            (TokenBucket.create tierConfig persisted l.now)
      | _ => (l, false)
  | .write i =>
      match l.puts[i]? with
      | some s => ({ l with stored := some s, puts := l.puts.eraseIdx i }, false)
      | none => (l, false)
  | .report =>
      let refill (b : LiveBucket) := { b with bucket := b.bucket.refill l.now }
      ({ l with bucket := l.bucket.map refill }, false)
  | .restart => ({ l with bucket := none, calls := [], puts := [], cleanups := [] }, false)
  | .cleanup =>
      let fresh (b : LiveBucket) := !isStale b.bucket.toRateLimitState l.now
      ({ l with bucket := l.bucket.filter fresh, cleanups := l.cleanups ++ [.scanning l.now] },
        false)
  | .scan i =>
      match l.cleanups[i]? with
      | some (.scanning since) =>
          if l.stored.any fun s => isStale s since then
            ({ l with cleanups := l.cleanups.set i .deleting }, false)
          else ({ l with cleanups := l.cleanups.eraseIdx i }, false)
      | _ => (l, false)
  | .delete i =>
      match l.cleanups[i]? with
      | some .deleting => ({ l with stored := none, cleanups := l.cleanups.eraseIdx i }, false)
      | _ => (l, false)

/-- **Any steps**, and how many calls they let through. -/
def run (tiers : RateLimitTiers) (l : Limiter) : List LimiterStep → Limiter × ℕ
  | [] => (l, 0)
  | s :: steps =>
      let rest := run tiers (l.step tiers s).1 steps
      (rest.1, (l.step tiers s).2.toNat + rest.2)

end Limiter

/-! ### What a tier has left -/

/-- The tokens that a kept state gives under a configuration: all of them, where none is kept. -/
def tokensAt (config : TokenBucketConfig) (now : ℕ) : Option RateLimitState → ℚ
  | none => config.capacity
  | some s => (refilled config s now).tokens

namespace Limiter

/-- What the next call goes on from. -/
def kept (l : Limiter) : Option RateLimitState :=
  match l.bucket with
  | some b => some b.handed
  | none => l.stored

/-- **The tokens left** under a configuration. -/
def level (config : TokenBucketConfig) (l : Limiter) : ℚ := tokensAt config l.now l.kept

end Limiter

/-- A configuration that allows no more than another one. -/
def TokenBucketConfig.Fits (c config : TokenBucketConfig) : Prop :=
  c.capacity ≤ config.capacity ∧ c.refillRate ≤ config.refillRate

/-- **No bucket of a larger tier** is in memory. -/
def Limiter.OfTier (config : TokenBucketConfig) (l : Limiter) : Prop :=
  ∀ b ∈ l.bucket, b.bucket.config.Fits config

/-- **What is gone on from next** gives no more tokens than are left. -/
def Limiter.Keeps (config : TokenBucketConfig) (l : Limiter) (next : Option RateLimitState) :
    Prop :=
  l.OfTier config → tokensAt config l.now next ≤ l.level config

/-- **What a step must find** under the tier in force: a call, no bucket of a larger tier; a call
that comes back from the database, a tier no larger and a state with no more tokens than are left
now; a restart, a clean-up, a write or a deletion that leaves the store to go on from, a stored
state with no more tokens than are left. -/
def StepKept (config : TokenBucketConfig) (l : Limiter) : LimiterStep → Prop
  | .call => l.OfTier config
  | .resume i => ∀ c ∈ l.calls[i]?, ∀ persisted ∈ c.persisted,
      c.tierConfig.Fits config ∧ l.Keeps config persisted
  | .write i => l.bucket = none → ∀ s ∈ l.puts[i]?, l.Keeps config (some s)
  | .restart => l.Keeps config l.stored
  | .cleanup => (∃ b ∈ l.bucket, isStale b.bucket.toRateLimitState l.now) →
      l.Keeps config l.stored
  | .delete i => l.bucket = none → l.cleanups[i]? = some .deleting → l.Keeps config none
  | _ => True

/-- **Every step of a run** finds what it must. -/
def StepsKept (tiers : RateLimitTiers) : Limiter → List LimiterStep → Prop
  | _, [] => True
  | l, s :: steps =>
      StepKept (getTierConfig l.trustScore tiers) l s ∧ StepsKept tiers (l.step tiers s).1 steps

/-- **The trust score stays in a tier** throughout a run. -/
def StaysIn (tiers : RateLimitTiers) (tier : Tier) : Limiter → List LimiterStep → Prop
  | l, [] => tierOf l.trustScore = tier
  | l, s :: steps => tierOf l.trustScore = tier ∧ StaysIn tiers tier (l.step tiers s).1 steps

instance (config : TokenBucketConfig) (l : Limiter) : Decidable (l.OfTier config) :=
  inferInstanceAs (Decidable (∀ b ∈ l.bucket, _ ∧ _))

instance (config : TokenBucketConfig) (l : Limiter) (next : Option RateLimitState) :
    Decidable (l.Keeps config next) :=
  inferInstanceAs (Decidable (_ → _))

instance (config : TokenBucketConfig) (l : Limiter) :
    (s : LimiterStep) → Decidable (StepKept config l s)
  | .call => inferInstanceAs (Decidable (l.OfTier config))
  | .resume i => inferInstanceAs (Decidable
      (∀ c ∈ l.calls[i]?, ∀ persisted ∈ c.persisted, (_ ∧ _) ∧ l.Keeps config persisted))
  | .write i => inferInstanceAs (Decidable
      (l.bucket = none → ∀ s ∈ l.puts[i]?, l.Keeps config (some s)))
  | .restart => inferInstanceAs (Decidable (l.Keeps config l.stored))
  | .cleanup => inferInstanceAs (Decidable
      ((∃ b ∈ l.bucket, isStale b.bucket.toRateLimitState l.now) → l.Keeps config l.stored))
  | .delete i => inferInstanceAs (Decidable
      (l.bucket = none → l.cleanups[i]? = some .deleting → l.Keeps config none))
  | .tick _ | .trust _ | .read _ | .report | .scan _ => inferInstanceAs (Decidable True)

instance decidableStepsKept (tiers : RateLimitTiers) :
    (l : Limiter) → (steps : List LimiterStep) → Decidable (StepsKept tiers l steps)
  | _, [] => inferInstanceAs (Decidable True)
  | l, s :: steps =>
      have := decidableStepsKept tiers (l.step tiers s).1 steps
      inferInstanceAs (Decidable (_ ∧ _))

instance decidableStaysIn (tiers : RateLimitTiers) (tier : Tier) :
    (l : Limiter) → (steps : List LimiterStep) → Decidable (StaysIn tiers tier l steps)
  | l, [] => inferInstanceAs (Decidable (tierOf l.trustScore = tier))
  | l, s :: steps =>
      have := decidableStaysIn tiers tier (l.step tiers s).1 steps
      inferInstanceAs (Decidable (_ ∧ _))

/-! ### Refills -/

variable {config c : TokenBucketConfig} {s : RateLimitState} {b : TokenBucket}
  {next : Option RateLimitState} {now ms : ℕ}

theorem refilled_tokens (config : TokenBucketConfig) (s : RateLimitState) (now : ℕ) :
    (refilled config s now).tokens
      = min config.capacity (s.tokens + ((now : ℚ) - s.lastRefill) * config.refillRate) :=
  rfl

@[simp] theorem refilled_lastRefill (config : TokenBucketConfig) (s : RateLimitState) (now : ℕ) :
    (refilled config s now).lastRefill = now :=
  rfl

theorem tokensAt_le_capacity (config : TokenBucketConfig) (now : ℕ)
    (next : Option RateLimitState) : tokensAt config now next ≤ config.capacity := by
  cases next with
  | none => exact le_refl _
  | some s => exact min_le_left _ _

/-- The time that a configuration's tokens refill for. -/
theorem refill_nonneg (config : TokenBucketConfig) {since now : ℕ} (hle : since ≤ now) :
    0 ≤ ((now : ℚ) - since) * config.refillRate :=
  mul_nonneg (sub_nonneg.mpr (Nat.cast_le.mpr hle)) config.refillRate_nonneg

/-- A state that is refilled twice is refilled once, to the later time. -/
theorem refilled_refilled {later : ℕ} (hle : now ≤ later) :
    refilled config (refilled config s now) later = refilled config s later := by
  have hrefill := refill_nonneg config hle
  rw [refilled, RateLimitState.mk.injEq]
  refine ⟨?_, rfl⟩
  rw [refilled_tokens, refilled_tokens, refilled_lastRefill]
  have hsum : s.tokens + ((now : ℚ) - s.lastRefill) * config.refillRate
      + ((later : ℚ) - now) * config.refillRate
        = s.tokens + ((later : ℚ) - s.lastRefill) * config.refillRate := by
    ring
  rw [min_add, hsum, ← min_assoc, min_eq_left (le_add_of_nonneg_right hrefill)]

/-- A state with no more tokens than the capacity is not changed by a refill at once. -/
theorem refilled_self (hle : s.tokens ≤ config.capacity) :
    refilled config s s.lastRefill = s := by
  have htokens : (refilled config s s.lastRefill).tokens = s.tokens := by
    rw [refilled_tokens, sub_self, zero_mul, add_zero, min_eq_right hle]
  exact congrArg (RateLimitState.mk · s.lastRefill) htokens

/-- A smaller tier gives no more tokens. -/
theorem refilled_le_of_fits (hfits : c.Fits config) (hle : s.lastRefill ≤ now) :
    (refilled c s now).tokens ≤ (refilled config s now).tokens := by
  have helapsed : (0 : ℚ) ≤ now - s.lastRefill := sub_nonneg.mpr (Nat.cast_le.mpr hle)
  rw [refilled_tokens, refilled_tokens]
  exact min_le_min hfits.1
    (add_le_add_right (mul_le_mul_of_nonneg_left hfits.2 helapsed) _)

/-- In some time, no more tokens come than are refilled. -/
theorem tokensAt_tick (config : TokenBucketConfig) (now ms : ℕ) (next : Option RateLimitState) :
    tokensAt config (now + ms) next ≤ tokensAt config now next + ms * config.refillRate := by
  have hrefill : 0 ≤ (ms : ℚ) * config.refillRate :=
    mul_nonneg (Nat.cast_nonneg _) config.refillRate_nonneg
  cases next with
  | none => exact le_add_of_nonneg_right hrefill
  | some s =>
    show (refilled config s (now + ms)).tokens ≤ (refilled config s now).tokens + _
    rw [refilled_tokens, refilled_tokens, min_add, Nat.cast_add]
    refine min_le_min (le_add_of_nonneg_right hrefill) (le_of_eq ?_)
    ring

/-- What `consume` does: it takes a token, or finds less than one. -/
theorem consume_cases (b : TokenBucket) (now : ℕ) :
    (1 ≤ (b.refill now).tokens ∧
        b.consume now
          = ({ b.refill now with tokens := (b.refill now).tokens - 1 }, true)) ∨
      b.consume now = (b.refill now, false) := by
  by_cases hone : 1 ≤ (b.refill now).tokens
  · exact Or.inl ⟨hone, if_pos hone⟩
  · exact Or.inr (if_neg hone)

/-- **A token that is taken** is one of those the tier had left. -/
theorem tokensAt_consume (hfits : b.config.Fits config) (hle : b.lastRefill ≤ now) :
    ((b.consume now).2.toNat : ℚ) + tokensAt config now (some (b.consume now).1.toRateLimitState)
      ≤ tokensAt config now (some b.toRateLimitState) := by
  have hleft : (b.refill now).tokens ≤ tokensAt config now (some b.toRateLimitState) :=
    refilled_le_of_fits hfits hle
  -- a state of this moment gives what it has
  have hnow : ∀ tokens, tokensAt config now (some ⟨tokens, now⟩) ≤ tokens := by
    intro tokens
    show min config.capacity (tokens + ((now : ℚ) - now) * config.refillRate) ≤ tokens
    rw [sub_self, zero_mul, add_zero]
    exact min_le_right _ _
  rcases consume_cases b now with ⟨-, hconsume⟩ | hconsume
  · rw [hconsume]
    have htaken := hnow ((b.refill now).tokens - 1)
    show ((1 : ℕ) : ℚ) + tokensAt config now (some ⟨(b.refill now).tokens - 1, now⟩) ≤ _
    rw [Nat.cast_one]
    linarith
  · rw [hconsume]
    have hkept := hnow (b.refill now).tokens
    show ((0 : ℕ) : ℚ) + tokensAt config now (some ⟨(b.refill now).tokens, now⟩) ≤ _
    rw [Nat.cast_zero, zero_add]
    exact hkept.trans hleft

/-- A bucket that is made from a state goes on from it. -/
theorem tokensAt_create (config c : TokenBucketConfig) (persisted : Option RateLimitState)
    (now : ℕ) :
    tokensAt config now (some (TokenBucket.create c persisted now).toRateLimitState)
      ≤ tokensAt config now persisted := by
  cases persisted with
  | none => exact tokensAt_le_capacity config now _
  | some s => exact le_refl _

/-! ### The states that a limiter keeps -/

/-- **A state of the past**, with no debt. -/
structure RateLimitState.Valid (s : RateLimitState) (now : ℕ) : Prop where
  nonneg : 0 ≤ s.tokens
  past : s.lastRefill ≤ now

/-- **A bucket in memory** is the state it handed to the store, refilled since. -/
structure LiveBucket.Follows (b : LiveBucket) (now : ℕ) : Prop where
  valid : b.handed.Valid b.bucket.lastRefill
  past : b.bucket.lastRefill ≤ now
  refilled : b.bucket.toRateLimitState
    = refilled b.bucket.config b.handed b.bucket.lastRefill

/-- **All states** of a limiter are of the past. -/
structure Sound (l : Limiter) : Prop where
  bucket : ∀ b ∈ l.bucket, b.Follows l.now
  stored : ∀ s ∈ l.stored, s.Valid l.now
  calls : ∀ c ∈ l.calls, ∀ persisted ∈ c.persisted, ∀ s ∈ persisted, s.Valid l.now
  puts : ∀ s ∈ l.puts, s.Valid l.now

variable {l l' : Limiter} {live : LiveBucket} {tiers : RateLimitTiers} {since count : ℕ}

theorem RateLimitState.Valid.later {later : ℕ} (h : s.Valid now) (hle : now ≤ later) :
    s.Valid later :=
  ⟨h.nonneg, h.past.trans hle⟩

theorem RateLimitState.Valid.refilled (h : s.Valid now) (config : TokenBucketConfig) :
    (refilled config s now).Valid now :=
  ⟨le_min config.capacity_nonneg (add_nonneg h.nonneg (refill_nonneg config h.past)), le_refl _⟩

theorem LiveBucket.Follows.state (h : live.Follows now) :
    live.bucket.toRateLimitState.Valid now := by
  rw [h.refilled]
  exact (h.valid.refilled live.bucket.config).later h.past

@[simp] theorem consume_config (b : TokenBucket) (now : ℕ) :
    (b.consume now).1.config = b.config := by
  rcases consume_cases b now with ⟨-, hconsume⟩ | hconsume <;> rw [hconsume] <;> rfl

@[simp] theorem consume_lastRefill (b : TokenBucket) (now : ℕ) :
    (b.consume now).1.lastRefill = now := by
  rcases consume_cases b now with ⟨-, hconsume⟩ | hconsume <;> rw [hconsume] <;> rfl

theorem consume_tokens (h : b.toRateLimitState.Valid now) :
    0 ≤ (b.consume now).1.tokens ∧ (b.consume now).1.tokens ≤ b.config.capacity := by
  have hnonneg : 0 ≤ (b.refill now).tokens := (h.refilled b.config).nonneg
  have hcapacity : (b.refill now).tokens ≤ b.config.capacity := min_le_left _ _
  rcases consume_cases b now with ⟨hone, hconsume⟩ | hconsume
  · rw [hconsume]
    exact ⟨sub_nonneg.mpr hone, (sub_le_self _ zero_le_one).trans hcapacity⟩
  · rw [hconsume]
    exact ⟨hnonneg, hcapacity⟩

/-- What a call leaves of a bucket is a state of this moment. -/
theorem follows_consume (h : b.toRateLimitState.Valid now) :
    (LiveBucket.mk (b.consume now).1 (b.consume now).1.toRateLimitState).Follows now := by
  obtain ⟨hnonneg, hcapacity⟩ := consume_tokens h
  refine ⟨⟨hnonneg, le_refl _⟩, le_of_eq (consume_lastRefill b now), ?_⟩
  refine (refilled_self ?_).symm
  rw [consume_config]
  exact hcapacity

/-- **A bucket that was refilled** still follows what it handed over. -/
theorem LiveBucket.Follows.refill (h : live.Follows now) :
    ({ live with bucket := live.bucket.refill now } : LiveBucket).Follows now := by
  refine ⟨h.valid.later h.past, le_refl _, ?_⟩
  show Messaging.refilled live.bucket.config live.bucket.toRateLimitState now = _
  rw [h.refilled, refilled_refilled h.past]
  rfl

theorem LiveBucket.Follows.later {later : ℕ} (h : live.Follows now) (hle : now ≤ later) :
    live.Follows later :=
  ⟨h.valid, h.past.trans hle, h.refilled⟩

theorem valid_create {persisted : Option RateLimitState} (config : TokenBucketConfig)
    (h : ∀ s ∈ persisted, s.Valid now) :
    (TokenBucket.create config persisted now).toRateLimitState.Valid now := by
  cases persisted with
  | none => exact ⟨config.capacity_nonneg, le_refl _⟩
  | some s => exact h s rfl

/-- An element of a list changed at one place is one of before, or the one that was changed. -/
theorem mem_modify {α : Type*} {xs : List α} {f : α → α} {i : ℕ} {x : α}
    (h : x ∈ xs.modify i f) : ∃ y ∈ xs, x = y ∨ x = f y := by
  obtain ⟨j, hj⟩ := List.mem_iff_getElem?.mp h
  rw [List.getElem?_modify, Option.map_eq_map, Option.map_eq_some_iff] at hj
  obtain ⟨y, hy, hx⟩ := hj
  refine ⟨y, List.mem_of_getElem? hy, ?_⟩
  split at hx
  · exact Or.inr hx.symm
  · exact Or.inl hx.symm

theorem sound_initial (now : ℕ) (trustScore : ℚ) : Sound (Limiter.initial now trustScore) where
  bucket _ h := nomatch h
  stored _ h := nomatch h
  calls _ h := nomatch h
  puts _ h := nomatch h

theorem Sound.consume (h : Sound l) (hb : b.toRateLimitState.Valid l.now) :
    Sound (l.consume b).1 where
  bucket := by
    rintro _ ⟨⟩
    exact follows_consume hb
  stored := h.stored
  calls := h.calls
  puts := by
    intro s hs
    rcases List.mem_append.mp hs with hs | hs
    · exact h.puts s hs
    · rw [List.mem_singleton.mp hs]
      have hfollows := follows_consume hb
      exact hfollows.valid.later hfollows.past

/-- **All states stay of the past**, whatever the step. -/
theorem Sound.step (h : Sound l) (tiers : RateLimitTiers) (s : LimiterStep) :
    Sound (l.step tiers s).1 := by
  cases s with
  | tick ms =>
    have hle : l.now ≤ l.now + ms := Nat.le_add_right _ _
    exact {
      bucket := fun b hb => (h.bucket b hb).later hle
      stored := fun s hs => (h.stored s hs).later hle
      calls := fun c hc p hp s hs => (h.calls c hc p hp s hs).later hle
      puts := fun s hs => (h.puts s hs).later hle }
  | trust reading => exact ⟨h.bucket, h.stored, h.calls, h.puts⟩
  | call =>
    rw [Limiter.step]
    cases hbucket : l.bucket with
    | some b => exact h.consume (h.bucket b hbucket).state
    | none =>
      refine ⟨(fun _ hb => nomatch hb), h.stored, ?_, h.puts⟩
      intro c hc
      rcases List.mem_append.mp hc with hc | hc
      · exact h.calls c hc
      · rw [List.mem_singleton.mp hc]
        exact fun _ hp => nomatch hp
  | read i =>
    refine ⟨h.bucket, h.stored, ?_, h.puts⟩
    intro c hc persisted hp s hs
    obtain ⟨c', hc', hsame | hread⟩ := mem_modify hc
    · exact h.calls c' hc' persisted (hsame ▸ hp) s hs
    · rw [hread] at hp
      rcases Option.or_eq_some_iff.mp hp with hp | ⟨-, hp⟩
      · exact h.calls c' hc' persisted hp s hs
      · obtain rfl := Option.some.inj hp
        exact h.stored s hs
  | resume i =>
    rw [Limiter.step]
    split
    next tierConfig persisted hcall =>
      have hmem := List.mem_of_getElem? hcall
      have hrest : Sound { l with calls := l.calls.eraseIdx i } :=
        ⟨h.bucket, h.stored, fun c hc => h.calls c (List.mem_of_mem_eraseIdx hc), h.puts⟩
      exact hrest.consume (valid_create tierConfig (h.calls _ hmem persisted rfl))
    next => exact h
  | write i =>
    rw [Limiter.step]
    split
    next s hput =>
      have hmem := List.mem_of_getElem? hput
      refine ⟨h.bucket, ?_, h.calls, fun s hs => h.puts s (List.mem_of_mem_eraseIdx hs)⟩
      rintro _ ⟨⟩
      exact h.puts s hmem
    next => exact h
  | report =>
    refine ⟨?_, h.stored, h.calls, h.puts⟩
    intro b hb
    obtain ⟨b', hb', rfl⟩ := Option.mem_map.mp hb
    exact (h.bucket b' hb').refill
  | restart =>
    exact {
      bucket := fun _ hb => nomatch hb
      stored := h.stored
      calls := fun _ hc => nomatch hc
      puts := fun _ hs => nomatch hs }
  | cleanup =>
    refine ⟨fun b hb => h.bucket b ?_, h.stored, h.calls, h.puts⟩
    exact (Option.mem_filter_iff.mp hb).1
  | scan i =>
    rw [Limiter.step]
    split
    · split
      · exact ⟨h.bucket, h.stored, h.calls, h.puts⟩
      · exact ⟨h.bucket, h.stored, h.calls, h.puts⟩
    · exact h
  | delete i =>
    rw [Limiter.step]
    split
    · exact ⟨h.bucket, (fun _ hs => nomatch hs), h.calls, h.puts⟩
    · exact h

theorem Sound.run (h : Sound l) (tiers : RateLimitTiers) (steps : List LimiterStep) :
    Sound (l.run tiers steps).1 := by
  induction steps generalizing l with
  | nil => exact h
  | cons s steps ih => exact ih (h.step tiers s)

/-! ### The calls that are allowed in a tier -/

/-- The calls that a tier allows in the time from one moment to another. -/
def allowance (config : TokenBucketConfig) (since now : ℕ) : ℚ :=
  config.capacity + ((now : ℚ) - since) * config.refillRate

/-- **The calls allowed since a moment** and the tokens that are left are within the allowance; as
long as a bucket of a larger tier is in memory, none was allowed. -/
structure Within (config : TokenBucketConfig) (since : ℕ) (l : Limiter) (count : ℕ) : Prop where
  past : since ≤ l.now
  total : l.OfTier config → count + l.level config ≤ allowance config since l.now
  waiting : ¬l.OfTier config → count = 0

theorem capacity_le_allowance (config : TokenBucketConfig) {since now : ℕ} (hle : since ≤ now) :
    config.capacity ≤ allowance config since now :=
  le_add_of_nonneg_right (refill_nonneg config hle)

theorem allowance_add (config : TokenBucketConfig) (since now ms : ℕ) :
    allowance config since (now + ms) = allowance config since now + ms * config.refillRate := by
  unfold allowance
  push_cast
  ring

theorem within_start (config : TokenBucketConfig) (l : Limiter) : Within config l.now l 0 where
  past := le_refl _
  total _ := by
    rw [Nat.cast_zero, zero_add]
    exact (tokensAt_le_capacity config l.now _).trans (capacity_le_allowance config (le_refl _))
  waiting _ := rfl

/-- **A step that goes on from what gives no more tokens** allows no more calls. -/
theorem Within.of_keeps (h : Within config since l count) (hnow : l'.now = l.now)
    (hkeeps : l.Keeps config l'.kept) (htier : l.OfTier config → l'.OfTier config) :
    Within config since l' count where
  past := hnow ▸ h.past
  total _ := by
    rw [Limiter.level, hnow]
    by_cases hof : l.OfTier config
    · have htotal := h.total hof
      have hlevel := hkeeps hof
      linarith
    · rw [h.waiting hof, Nat.cast_zero, zero_add]
      exact (tokensAt_le_capacity config l.now _).trans (capacity_le_allowance config h.past)
  waiting hof := h.waiting fun hold => hof (htier hold)

/-- **A call** on a bucket of the tier, with no more tokens than are left. -/
theorem Within.consume (h : Within config since l count) (hfits : b.config.Fits config)
    (hle : b.lastRefill ≤ l.now) (hkeeps : l.Keeps config (some b.toRateLimitState)) :
    Within config since (l.consume b).1 (count + (l.consume b).2.toNat) where
  past := h.past
  total _ := by
    have htaken : ((l.consume b).2.toNat : ℚ) + (l.consume b).1.level config
        ≤ tokensAt config l.now (some b.toRateLimitState) :=
      tokensAt_consume hfits hle
    show _ ≤ allowance config since l.now
    rw [Nat.cast_add]
    by_cases hof : l.OfTier config
    · have htotal := h.total hof
      have hlevel := hkeeps hof
      linarith
    · have hcapacity := tokensAt_le_capacity config l.now (some b.toRateLimitState)
      have hallowance := capacity_le_allowance config h.past
      rw [h.waiting hof, Nat.cast_zero]
      linarith
  waiting hof := by
    refine absurd ?_ hof
    rintro _ ⟨⟩
    show (b.consume l.now).1.config.Fits config
    rw [consume_config]
    exact hfits

/-- A bucket of the tier has no more tokens than the state it follows. -/
theorem LiveBucket.Follows.tokensAt_le (h : live.Follows now)
    (hfits : live.bucket.config.Fits config) :
    tokensAt config now (some live.bucket.toRateLimitState)
      ≤ tokensAt config now (some live.handed) := by
  have hstate : live.bucket.tokens
      ≤ (Messaging.refilled config live.handed live.bucket.lastRefill).tokens := by
    rw [show live.bucket.tokens = live.bucket.toRateLimitState.tokens from rfl, h.refilled]
    exact refilled_le_of_fits hfits h.valid.past
  have htwice : (Messaging.refilled config
      (Messaging.refilled config live.handed live.bucket.lastRefill) now).tokens
        = tokensAt config now (some live.handed) := by
    rw [refilled_refilled h.past]; rfl
  rw [← htwice]
  exact min_le_min_left _ (add_le_add_left hstate _)

theorem kept_of_some (hbucket : l.bucket = some live) : l.kept = some live.handed := by
  rw [Limiter.kept, hbucket]

theorem kept_of_none (hbucket : l.bucket = none) : l.kept = l.stored := by
  rw [Limiter.kept, hbucket]

theorem kept_report (tiers : RateLimitTiers) (l : Limiter) :
    (l.step tiers .report).1.kept = l.kept := by
  simp only [Limiter.step, Limiter.kept]
  cases l.bucket <;> rfl

theorem kept_cleanup_of_stale
    (hstale : ∃ b ∈ l.bucket, isStale b.bucket.toRateLimitState l.now) :
    (l.step tiers .cleanup).1.kept = l.stored := by
  obtain ⟨b, hb, hstale⟩ := hstale
  refine kept_of_none ?_
  show l.bucket.filter _ = none
  rw [hb, Option.filter_some, hstale]
  rfl

theorem kept_cleanup_of_fresh
    (hfresh : ¬∃ b ∈ l.bucket, isStale b.bucket.toRateLimitState l.now) :
    (l.step tiers .cleanup).1.kept = l.kept := by
  have hbucket : (l.step tiers .cleanup).1.bucket = l.bucket := by
    show l.bucket.filter _ = l.bucket
    cases hbucket : l.bucket with
    | none => rfl
    | some b =>
      have hstale : isStale b.bucket.toRateLimitState l.now = false :=
        Bool.not_eq_true _ ▸ fun hstale => hfresh ⟨b, hbucket, hstale⟩
      refine Option.filter_some_pos ?_
      rw [hstale]
      rfl
  rw [Limiter.kept, hbucket]
  rfl

/-- **What one step keeps**, where it finds what it must. -/
theorem Within.step (h : Within config since l count) (hsound : Sound l) {s : LimiterStep}
    (hkept : StepKept config l s) :
    Within config since (l.step tiers s).1 (count + (l.step tiers s).2.toNat) := by
  cases s with
  | tick ms =>
    refine ⟨h.past.trans (Nat.le_add_right _ _), fun hof => ?_, h.waiting⟩
    have htotal := h.total hof
    have hlevel := tokensAt_tick config l.now ms l.kept
    show (count : ℚ) + tokensAt config (l.now + ms) l.kept ≤ allowance config since (l.now + ms)
    rw [allowance_add]
    rw [Limiter.level] at htotal
    linarith
  | trust reading => exact h.of_keeps rfl (fun _ => le_refl _) id
  | call =>
    rw [Limiter.step]
    cases hbucket : l.bucket with
    | some b =>
      have hfollows := hsound.bucket b hbucket
      refine h.consume (hkept b hbucket) hfollows.past fun hof => ?_
      rw [Limiter.level, kept_of_some hbucket]
      exact hfollows.tokensAt_le (hof b hbucket)
    | none =>
      refine h.of_keeps rfl (fun _ => ?_) fun _ _ hb => nomatch hb
      rw [Limiter.level, kept_of_none hbucket]
      exact le_refl _
  | read i => exact h.of_keeps rfl (fun _ => le_refl _) id
  | resume i =>
    rw [Limiter.step]
    split
    next tierConfig persisted hcall =>
      obtain ⟨hfits, hkeeps⟩ := hkept _ hcall persisted rfl
      have hvalid := valid_create tierConfig
        (hsound.calls _ (List.mem_of_getElem? hcall) persisted rfl)
      have hrest : Within config since { l with calls := l.calls.eraseIdx i } count :=
        h.of_keeps rfl (fun _ => le_refl _) id
      refine hrest.consume hfits hvalid.past fun hof => ?_
      exact (tokensAt_create config tierConfig persisted l.now).trans (hkeeps hof)
    next => exact h
  | write i =>
    rw [Limiter.step]
    split
    next s hput =>
      cases hbucket : l.bucket with
      | some b =>
        refine h.of_keeps rfl (fun _ => ?_) fun hof _ hb => hof _ (hbucket.trans hb)
        rw [Limiter.level, kept_of_some hbucket]
        exact le_refl _
      | none => exact h.of_keeps rfl (hkept hbucket s hput) fun _ _ hb => nomatch hb
    next => exact h
  | report =>
    refine h.of_keeps rfl (fun _ => ?_) fun hof b hb => ?_
    · rw [kept_report]
      exact le_refl _
    · obtain ⟨b', hb', rfl⟩ := Option.mem_map.mp hb
      exact hof b' hb'
  | restart => exact h.of_keeps rfl hkept fun _ _ hb => nomatch hb
  | cleanup =>
    have htier : l.OfTier config → (l.step tiers .cleanup).1.OfTier config :=
      fun hof b hb => hof b (Option.mem_filter_iff.mp hb).1
    refine h.of_keeps rfl ?_ htier
    by_cases hstale : ∃ b ∈ l.bucket, isStale b.bucket.toRateLimitState l.now
    · rw [kept_cleanup_of_stale hstale]
      exact hkept hstale
    · rw [kept_cleanup_of_fresh hstale]
      exact fun _ => le_refl _
  | scan i =>
    rw [Limiter.step]
    split
    · split
      · exact h.of_keeps rfl (fun _ => le_refl _) id
      · exact h.of_keeps rfl (fun _ => le_refl _) id
    · exact h
  | delete i =>
    rw [Limiter.step]
    split
    next hcleanup =>
      cases hbucket : l.bucket with
      | some b =>
        refine h.of_keeps rfl (fun _ => ?_) fun hof _ hb => hof _ (hbucket.trans hb)
        rw [Limiter.level, kept_of_some hbucket]
        exact le_refl _
      | none => exact h.of_keeps rfl (hkept hbucket hcleanup) fun _ _ hb => nomatch hb
    next => exact h

/-- **What a run keeps**, as long as the trust score stays in a tier. -/
theorem Within.run {tier : Tier} {steps : List LimiterStep}
    (h : Within (tiers.config tier) since l count) (hsound : Sound l)
    (hstays : StaysIn tiers tier l steps) (hkept : StepsKept tiers l steps) :
    Within (tiers.config tier) since (l.run tiers steps).1 (count + (l.run tiers steps).2) := by
  induction steps generalizing l count with
  | nil => exact h
  | cons s steps ih =>
    obtain ⟨htier, hstays⟩ := hstays
    obtain ⟨hstep, hkept⟩ := hkept
    rw [getTierConfig_eq, htier] at hstep
    have hrest := ih (h.step hsound hstep) (hsound.step tiers s) hstays hkept
    rw [Nat.add_assoc] at hrest
    exact hrest

theorem Sound.level_nonneg (h : Sound l) (config : TokenBucketConfig) : 0 ≤ l.level config := by
  have htokens {s : RateLimitState} (hs : s.Valid l.now) : 0 ≤ tokensAt config l.now (some s) :=
    (hs.refilled config).nonneg
  rw [Limiter.level]
  cases hbucket : l.bucket with
  | some b =>
    rw [kept_of_some hbucket]
    have hfollows := h.bucket b hbucket
    exact htokens (hfollows.valid.later hfollows.past)
  | none =>
    rw [kept_of_none hbucket]
    cases hstored : l.stored with
    | some s => exact htokens (h.stored s hstored)
    | none => exact config.capacity_nonneg

theorem Within.le (h : Within config since l count) (hsound : Sound l) :
    (count : ℚ) ≤ allowance config since l.now := by
  by_cases hof : l.OfTier config
  · have htotal := h.total hof
    have hlevel := hsound.level_nonneg config
    linarith
  · rw [h.waiting hof, Nat.cast_zero]
    exact config.capacity_nonneg.trans (capacity_le_allowance config h.past)

/-- **The limit in force is the current tier's**: after any run of a limiter, in any further steps
during which the trust score stays in one tier, and each of which finds what it must, no more calls
are allowed than the tier's capacity and what it refills in the time. -/
theorem allowed_within_tier (tiers : RateLimitTiers) (now : ℕ) (trustScore : ℚ)
    (before steps : List LimiterStep) (tier : Tier)
    (hstays : StaysIn tiers tier ((Limiter.initial now trustScore).run tiers before).1 steps)
    (hkept : StepsKept tiers ((Limiter.initial now trustScore).run tiers before).1 steps) :
    let first := ((Limiter.initial now trustScore).run tiers before).1
    ((first.run tiers steps).2 : ℚ) ≤ (tiers.config tier).capacity
      + (((first.run tiers steps).1.now : ℚ) - first.now) * (tiers.config tier).refillRate := by
  intro first
  have hsound : Sound first := (sound_initial now trustScore).run tiers before
  have hwithin := (within_start (tiers.config tier) first).run hsound hstays hkept
  rw [Nat.zero_add] at hwithin
  exact hwithin.le (hsound.run tiers steps)

/-- A trusted sender, whose first call comes back from an empty store. -/
def trustedCall : List LimiterStep :=
  [.trust (some ⟨1, 50, 1⟩), .call, .read 0, .resume 0, .write 0, .report]

/-- Over a restart and a minute, the sender has what the tier has left. -/
theorem allowed_over_restart :
    (((Limiter.initial 0 0).run DEFAULT_RATE_LIMIT_TIERS trustedCall).1.run
        DEFAULT_RATE_LIMIT_TIERS
        [.call, .write 0, .restart, .call, .read 0, .tick 60000, .resume 0, .call]).2
      ≤ (1000 : ℚ) + (60000 - 0) * (600 / (60 * 1000)) := by
  have h := allowed_within_tier DEFAULT_RATE_LIMIT_TIERS 0 0 trustedCall
    [.call, .write 0, .restart, .call, .read 0, .tick 60000, .resume 0, .call] .trusted
    (by decide +kernel) (by decide +kernel)
  exact h

/-- **A bucket keeps the capacity it was made with**: a sender that is taken for suspicious, and so
for one without trust, has eleven calls through at once, where its tier has ten. -/
theorem bucket_of_earlier_tier :
    ¬∀ (tiers : RateLimitTiers) (now : ℕ) (trustScore : ℚ) (before steps : List LimiterStep)
      (tier : Tier),
      let first := ((Limiter.initial now trustScore).run tiers before).1
      StaysIn tiers tier first steps →
        ((first.run tiers steps).2 : ℚ) ≤ (tiers.config tier).capacity
          + (((first.run tiers steps).1.now : ℚ) - first.now)
            * (tiers.config tier).refillRate := by
  intro h
  have hbound := h DEFAULT_RATE_LIMIT_TIERS 0 0 (trustedCall ++ [.trust (some ⟨1, 50, 2 / 5⟩)])
    (List.replicate 11 .call) .newAgent (by decide +kernel)
  revert hbound
  decide +kernel

end QuadraA.Messaging
