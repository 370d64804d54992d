import Mathlib
import QuadraA.Messaging.RateLimits

/-!
# What a token bucket gives out

The calls of one `TokenBucket` of `rate-limiter.ts`, in any order and at times that do not go back:
each of them refills the bucket first, those that only read it too.

* `token_bucket_bounds` — the tokens stay within the capacity, and without a clock that went back
  before the first call none is owed; an interval has its tokens, and a token comes in time;
* `reads_take_nothing` — reading a bucket takes nothing from it;
* `restored_ahead` — a state that was stored later than the first call.
-/

namespace QuadraA.Messaging

/-! ### The calls -/

inductive BucketCall where
  | consume
  | getRemaining
  | getResetTime
deriving DecidableEq

structure TimedCall where
  call : BucketCall
  now : ℕ
deriving DecidableEq

namespace TokenBucket

def getRemaining (b : TokenBucket) (now : ℕ) : TokenBucket × ℤ :=
  let b := b.refill now
  (b, ⌊b.tokens⌋)

/-- Milliseconds until a token is available: `Infinity`, if none will be. -/
def getResetTime (b : TokenBucket) (now : ℕ) : TokenBucket × WithTop ℤ :=
  let b := b.refill now
  if 1 ≤ b.tokens then (b, 0)
  else if b.config.refillRate = 0 then (b, ⊤)
  else
    let needed := 1 - b.tokens
    (b, ⌈needed / b.config.refillRate⌉)

/-- One call, and whether it gives out a token. -/
def call (b : TokenBucket) (c : TimedCall) : TokenBucket × Bool :=
  match c.call with
  | .consume => b.consume c.now
  | .getRemaining => ((b.getRemaining c.now).1, false)
  | .getResetTime => ((b.getResetTime c.now).1, false)

/-- **Any calls**, and the times at which they give out tokens. -/
def run (b : TokenBucket) : List TimedCall → TokenBucket × List ℕ
  | [] => (b, [])
  | c :: calls =>
      let rest := run (b.call c).1 calls
      (rest.1, if (b.call c).2 then c.now :: rest.2 else rest.2)

/-- **The tokens, and all that could still come** until some time, were there no capacity. -/
def tokensBy (b : TokenBucket) (limit : ℕ) : ℚ :=
  b.tokens + ((limit : ℚ) - b.lastRefill) * b.config.refillRate

variable {b : TokenBucket} {c : TimedCall} {calls : List TimedCall} {now later limit : ℕ}

/-! ### One call -/

theorem refill_refill (b : TokenBucket) (hle : now ≤ later) :
    (b.refill now).refill later = b.refill later :=
  congrArg (fun s => { b with toRateLimitState := s }) (refilled_refilled hle)

theorem getResetTime_fst (b : TokenBucket) (now : ℕ) : (b.getResetTime now).1 = b.refill now := by
  unfold getResetTime
  dsimp only
  split
  · rfl
  · split <;> rfl

/-- A call that gives out a token takes it from the refilled bucket, and any other call only
refills. -/
theorem call_cases (b : TokenBucket) (c : TimedCall) :
    (c.call = .consume ∧ 1 ≤ (b.refill c.now).tokens ∧
        b.call c = ({ b.refill c.now with tokens := (b.refill c.now).tokens - 1 }, true)) ∨
      b.call c = (b.refill c.now, false) := by
  unfold call
  cases c.call with
  | consume =>
    rcases consume_cases b c.now with ⟨hone, hconsume⟩ | hconsume
    · exact Or.inl ⟨rfl, hone, hconsume⟩
    · exact Or.inr hconsume
  | getRemaining => exact Or.inr rfl
  | getResetTime => exact Or.inr (congrArg (·, false) (getResetTime_fst b c.now))

@[simp] theorem call_config (b : TokenBucket) (c : TimedCall) :
    (b.call c).1.config = b.config := by
  rcases call_cases b c with ⟨-, -, hcall⟩ | hcall <;> rw [hcall] <;> rfl

@[simp] theorem call_lastRefill (b : TokenBucket) (c : TimedCall) :
    (b.call c).1.lastRefill = c.now := by
  rcases call_cases b c with ⟨-, -, hcall⟩ | hcall <;> rw [hcall] <;> rfl

/-- What a call does, it does to the bucket that was refilled for it. -/
theorem call_refill (b : TokenBucket) (c : TimedCall) : (b.refill c.now).call c = b.call c := by
  have hsame := refill_refill b (le_refl c.now)
  unfold call
  cases c.call with
  | consume =>
    show (b.refill c.now).consume c.now = b.consume c.now
    rw [consume, consume, hsame]
  | getRemaining => exact congrArg (·, false) hsame
  | getResetTime =>
    show (((b.refill c.now).getResetTime c.now).1, false) = ((b.getResetTime c.now).1, false)
    rw [getResetTime_fst, getResetTime_fst, hsame]

theorem run_refill (b : TokenBucket) (c : TimedCall) (calls : List TimedCall) :
    (b.refill c.now).run (c :: calls) = b.run (c :: calls) := by
  unfold run
  rw [call_refill]

theorem call_tokens_le (b : TokenBucket) (c : TimedCall) :
    (b.call c).1.tokens ≤ b.config.capacity := by
  have hle : (b.refill c.now).tokens ≤ b.config.capacity := min_le_left _ _
  rcases call_cases b c with ⟨-, -, hcall⟩ | hcall
  · rw [hcall]
    exact (sub_le_self _ zero_le_one).trans hle
  · rw [hcall]
    exact hle

theorem call_tokens_nonneg (hnonneg : 0 ≤ b.tokens) (hle : b.lastRefill ≤ c.now) :
    0 ≤ (b.call c).1.tokens := by
  have hrefill : 0 ≤ (b.refill c.now).tokens :=
    le_min b.config.capacity_nonneg (add_nonneg hnonneg (refill_nonneg b.config hle))
  rcases call_cases b c with ⟨-, hone, hcall⟩ | hcall
  · rw [hcall]
    exact sub_nonneg.mpr hone
  · rw [hcall]
    exact hrefill

theorem tokensBy_refill_le (b : TokenBucket) (now limit : ℕ) :
    (b.refill now).tokensBy limit ≤ b.tokensBy limit := by
  have hmin : (b.refill now).tokens
      ≤ b.tokens + ((now : ℚ) - b.lastRefill) * b.config.refillRate := min_le_right _ _
  show (b.refill now).tokens + ((limit : ℚ) - now) * b.config.refillRate ≤ _
  rw [tokensBy]
  linarith

/-- **A step of the potential.**  A token that is given out is gone from it, and nothing else is
added to it. -/
theorem tokensBy_call (b : TokenBucket) (c : TimedCall) (limit : ℕ) :
    ((b.call c).2.toNat : ℚ) + (b.call c).1.tokensBy limit ≤ b.tokensBy limit := by
  have hrefill := tokensBy_refill_le b c.now limit
  rcases call_cases b c with ⟨-, -, hcall⟩ | hcall
  · rw [hcall]
    show ((1 : ℕ) : ℚ) + ((b.refill c.now).tokens - 1
      + ((limit : ℚ) - c.now) * b.config.refillRate) ≤ _
    have hthere : (b.refill c.now).tokensBy limit
        = (b.refill c.now).tokens + ((limit : ℚ) - c.now) * b.config.refillRate := rfl
    rw [Nat.cast_one]
    linarith
  · rw [hcall]
    show ((0 : ℕ) : ℚ) + (b.refill c.now).tokensBy limit ≤ _
    rw [Nat.cast_zero, zero_add]
    exact hrefill

/-- A bucket that has just given out a token owes none until a later time. -/
theorem tokensBy_nonneg (htaken : (b.call c).2 = true) (hle : c.now ≤ limit) :
    0 ≤ (b.call c).1.tokensBy limit := by
  rcases call_cases b c with ⟨-, hone, hcall⟩ | hcall
  · rw [hcall]
    exact add_nonneg (sub_nonneg.mpr hone) (refill_nonneg b.config hle)
  · rw [hcall] at htaken
    cases htaken

/-! ### Any calls -/

@[simp] theorem run_config (b : TokenBucket) (calls : List TimedCall) :
    (b.run calls).1.config = b.config := by
  induction calls generalizing b with
  | nil => rfl
  | cons c calls ih => exact (ih (b.call c).1).trans (call_config b c)

theorem run_tokens_le (hle : b.tokens ≤ b.config.capacity) (calls : List TimedCall) :
    (b.run calls).1.tokens ≤ b.config.capacity := by
  induction calls generalizing b with
  | nil => exact hle
  | cons c calls ih =>
    have hcall := call_tokens_le b c
    rw [← call_config b c] at hcall
    have hrun := ih hcall
    rwa [call_config] at hrun

theorem run_tokens_nonneg (hnonneg : 0 ≤ b.tokens)
    (hsorted : calls.Pairwise fun c later => c.now ≤ later.now)
    (hle : ∀ c ∈ calls, b.lastRefill ≤ c.now) : 0 ≤ (b.run calls).1.tokens := by
  induction calls generalizing b with
  | nil => exact hnonneg
  | cons c calls ih =>
    obtain ⟨hfirst, hsorted⟩ := List.pairwise_cons.mp hsorted
    refine ih (call_tokens_nonneg hnonneg (hle c List.mem_cons_self)) hsorted fun later hlater => ?_
    rw [call_lastRefill]
    exact hfirst later hlater

/-- **The tokens given out until a time** are in the potential. -/
theorem count_until (b : TokenBucket) (calls : List TimedCall) (limit : ℕ) :
    (((b.run calls).2.filter fun time => time ≤ limit).length : ℚ)
      ≤ max 0 (b.tokensBy limit) := by
  induction calls generalizing b with
  | nil => exact le_max_left _ _
  | cons c calls ih =>
    have hrest := ih (b.call c).1
    have hstep := tokensBy_call b c limit
    have hmono : max 0 ((b.call c).1.tokensBy limit) ≤ max 0 (b.tokensBy limit) := by
      refine max_le_max (le_refl 0) (le_trans ?_ hstep)
      exact le_add_of_nonneg_left (Nat.cast_nonneg _)
    by_cases hcounted : (b.call c).2 = true ∧ c.now ≤ limit
    · obtain ⟨htaken, hle⟩ := hcounted
      have hnonneg := tokensBy_nonneg htaken hle
      have hfilter : ((b.run (c :: calls)).2.filter fun time => time ≤ limit)
          = c.now :: ((b.call c).1.run calls).2.filter fun time => time ≤ limit := by
        show (if (b.call c).2 then c.now :: ((b.call c).1.run calls).2
          else ((b.call c).1.run calls).2).filter _ = _
        rw [if_pos htaken, List.filter_cons_of_pos (by simpa using hle)]
      rw [max_eq_right hnonneg] at hrest
      rw [htaken, Bool.toNat_true, Nat.cast_one] at hstep
      rw [hfilter, List.length_cons, Nat.cast_succ]
      refine le_trans ?_ (le_max_right _ _)
      linarith
    · have hfilter : ((b.run (c :: calls)).2.filter fun time => time ≤ limit)
          = ((b.call c).1.run calls).2.filter fun time => time ≤ limit := by
        show (if (b.call c).2 then c.now :: ((b.call c).1.run calls).2
          else ((b.call c).1.run calls).2).filter _ = _
        split
        · rename_i htaken
          have hlate : ¬c.now ≤ limit := fun hle => hcounted ⟨htaken, hle⟩
          rw [List.filter_cons_of_neg (by simpa using hlate)]
        · rfl
      rw [hfilter]
      exact hrest.trans hmono

/-- **The tokens given out in an interval.**  Those before it do not count, and at the first call in
it the bucket is within its capacity. -/
theorem count_between (b : TokenBucket)
    (hsorted : calls.Pairwise fun c later => c.now ≤ later.now) (start length : ℕ) :
    (((b.run calls).2.filter fun time => start ≤ time ∧ time ≤ start + length).length : ℚ)
      ≤ b.config.capacity + b.config.refillRate * length := by
  have hlength : 0 ≤ b.config.refillRate * (length : ℚ) :=
    mul_nonneg b.config.refillRate_nonneg (Nat.cast_nonneg _)
  induction calls generalizing b with
  | nil => exact add_nonneg b.config.capacity_nonneg hlength
  | cons c calls ih =>
    obtain ⟨hfirst, hrest⟩ := List.pairwise_cons.mp hsorted
    by_cases hstart : start ≤ c.now
    · -- the first call of the interval
      have hfewer : ((b.run (c :: calls)).2.filter fun time =>
            start ≤ time ∧ time ≤ start + length).length
          ≤ ((b.run (c :: calls)).2.filter fun time => time ≤ start + length).length := by
        refine (List.monotone_filter_right _ fun time htime => ?_).length_le
        exact decide_eq_true (of_decide_eq_true htime).2
      have hcount := count_until (b.refill c.now) (c :: calls) (start + length)
      rw [run_refill] at hcount
      have hpotential : (b.refill c.now).tokensBy (start + length)
          ≤ b.config.capacity + b.config.refillRate * length := by
        have hcapacity : (b.refill c.now).tokens ≤ b.config.capacity := min_le_left _ _
        have helapsed : ((start + length : ℕ) : ℚ) - c.now ≤ length := by
          have hcast : (start : ℚ) ≤ c.now := Nat.cast_le.mpr hstart
          push_cast
          linarith
        have hmul := mul_le_mul_of_nonneg_right helapsed b.config.refillRate_nonneg
        show (b.refill c.now).tokens
          + (((start + length : ℕ) : ℚ) - c.now) * b.config.refillRate ≤ _
        linarith
      calc (((b.run (c :: calls)).2.filter fun time =>
              start ≤ time ∧ time ≤ start + length).length : ℚ)
          ≤ ((b.run (c :: calls)).2.filter fun time => time ≤ start + length).length :=
            Nat.cast_le.mpr hfewer
        _ ≤ max 0 ((b.refill c.now).tokensBy (start + length)) := hcount
        _ ≤ b.config.capacity + b.config.refillRate * length :=
            max_le (add_nonneg b.config.capacity_nonneg hlength) hpotential
    · have hfilter : ((b.run (c :: calls)).2.filter fun time =>
            start ≤ time ∧ time ≤ start + length)
          = ((b.call c).1.run calls).2.filter fun time =>
            start ≤ time ∧ time ≤ start + length := by
        show (if (b.call c).2 then c.now :: ((b.call c).1.run calls).2
          else ((b.call c).1.run calls).2).filter _ = _
        split
        · exact List.filter_cons_of_neg (by simp [hstart])
        · rfl
      have hcalls := ih (b.call c).1 hrest (by rwa [call_config])
      rw [call_config] at hcalls
      rw [hfilter]
      exact hcalls

/-! ### Calls that only read -/

/-- Calls that only read a bucket leave what it has at a later time. -/
theorem run_of_reads (b : TokenBucket) (hreads : ∀ c ∈ calls, c.call ≠ .consume)
    (hle : ∀ c ∈ calls, c.now ≤ later) : (b.run calls).1.refill later = b.refill later := by
  induction calls generalizing b with
  | nil => rfl
  | cons c calls ih =>
    have hcall : (b.call c).1 = b.refill c.now := by
      rcases call_cases b c with ⟨hconsume, -, -⟩ | hcall
      · exact absurd hconsume (hreads c List.mem_cons_self)
      · rw [hcall]
    have hrest := ih (b.call c).1 (fun other hother => hreads other (List.mem_cons_of_mem _ hother))
      fun other hother => hle other (List.mem_cons_of_mem _ hother)
    calc ((b.call c).1.run calls).1.refill later = (b.call c).1.refill later := hrest
      _ = (b.refill c.now).refill later := by rw [hcall]
      _ = b.refill later := refill_refill b (hle c List.mem_cons_self)

/-- **There is a token after the reset time.**  The time is rounded up, so it is long enough. -/
theorem tokens_after_reset (hcapacity : 1 ≤ b.config.capacity) (hrate : 0 < b.config.refillRate)
    (hle : now ≤ later) (hreset : (b.getResetTime now).2 ≤ (((later : ℤ) - now : ℤ) : WithTop ℤ)) :
    1 ≤ (b.refill later).tokens := by
  rw [← refill_refill b hle]
  refine le_min hcapacity ?_
  have hrefill := refill_nonneg b.config hle
  show 1 ≤ (b.refill now).tokens + ((later : ℚ) - now) * b.config.refillRate
  unfold getResetTime at hreset
  dsimp only at hreset
  split at hreset
  · rename_i hone
    exact hone.trans (le_add_of_nonneg_right hrefill)
  · rw [if_neg (show ¬(b.refill now).config.refillRate = 0 from hrate.ne')] at hreset
    have hceil : ⌈(1 - (b.refill now).tokens) / b.config.refillRate⌉ ≤ (later : ℤ) - now :=
      WithTop.coe_le_coe.mp hreset
    have hdiv := Int.ceil_le.mp hceil
    rw [div_le_iff₀ hrate] at hdiv
    push_cast at hdiv
    linarith

end TokenBucket

/-! ### The bounds -/

/-- **What a token bucket keeps to**, fresh or restored: it never has more tokens than its capacity,
it owes none unless it was stored later than a call, it gives out a capacity and the refill in any
interval, and it has a token when the reset time is over. -/
theorem token_bucket_bounds (config : TokenBucketConfig) (hcapacity : 1 ≤ config.capacity)
    (hrate : 0 < config.refillRate) (persisted : Option RateLimitState) (created : ℕ)
    (hpersisted : ∀ s ∈ persisted, 0 ≤ s.tokens ∧ s.tokens ≤ config.capacity)
    (calls : List TimedCall) (hsorted : calls.Pairwise fun c later => c.now ≤ later.now) :
    let b := TokenBucket.create config persisted created
    (b.run calls).1.tokens ≤ config.capacity ∧
      ((∀ c ∈ calls, b.lastRefill ≤ c.now) → 0 ≤ (b.run calls).1.tokens) ∧
      (∀ start length : ℕ,
        (((b.run calls).2.filter fun time => start ≤ time ∧ time ≤ start + length).length : ℚ)
          ≤ config.capacity + config.refillRate * length) ∧
      ∀ (asked later : ℕ) (reads : List TimedCall), (∀ c ∈ reads, c.call ≠ .consume) →
        (∀ c ∈ reads, asked ≤ c.now ∧ c.now ≤ later) → asked ≤ later →
        ((b.run calls).1.getResetTime asked).2 ≤ (((later : ℤ) - asked : ℤ) : WithTop ℤ) →
          ((((b.run calls).1.getResetTime asked).1.run reads).1.consume later).2 = true := by
  intro b
  have hconfig : b.config = config := rfl
  have htokens : 0 ≤ b.tokens ∧ b.tokens ≤ config.capacity := by
    cases persisted with
    | none => exact ⟨config.capacity_nonneg, le_refl _⟩
    | some s => exact hpersisted s rfl
  refine ⟨TokenBucket.run_tokens_le htokens.2 calls,
    TokenBucket.run_tokens_nonneg htokens.1 hsorted,
    TokenBucket.count_between b hsorted, ?_⟩
  intro asked later reads hreads hbetween hle hreset
  have hafter : (b.run calls).1.config = config := TokenBucket.run_config b calls
  have hone : 1 ≤ ((b.run calls).1.refill later).tokens := by
    refine TokenBucket.tokens_after_reset ?_ ?_ hle hreset <;> rwa [hafter]
  have hwaited : (((b.run calls).1.getResetTime asked).1.run reads).1.refill later
      = (b.run calls).1.refill later := by
    rw [TokenBucket.run_of_reads _ hreads fun c hc => (hbetween c hc).2,
      TokenBucket.getResetTime_fst, TokenBucket.refill_refill _ hle]
  unfold TokenBucket.consume
  dsimp only
  rw [hwaited, if_pos hone]

/-- A bucket of two tokens, one for each second, restored half a token full. -/
def sampleBucket : TokenBucketConfig := ⟨2, 1 / 1000, by norm_num, by norm_num⟩

theorem token_bucket_bounds_sample :
    let b := TokenBucket.create sampleBucket (some ⟨1 / 2, 100⟩) 200
    let calls := [⟨.getRemaining, 200⟩, ⟨.consume, 600⟩, ⟨.consume, 650⟩]
    0 ≤ (b.run calls).1.tokens ∧ (b.run calls).2 = [600] ∧
      ((b.run calls).1.getResetTime 700).2 = 900 ∧
      ((((b.run calls).1.getResetTime 700).1.run [⟨.getRemaining, 1000⟩]).1.consume 1600).2
        = true := by
  have hbounds := token_bucket_bounds sampleBucket (by decide +kernel) (by decide +kernel)
    (some ⟨1 / 2, 100⟩) 200 (by decide +kernel)
    [⟨.getRemaining, 200⟩, ⟨.consume, 600⟩, ⟨.consume, 650⟩] (by decide)
  refine ⟨hbounds.2.1 (by decide), by decide +kernel, by decide +kernel, ?_⟩
  exact hbounds.2.2.2 700 1600 [⟨.getRemaining, 1000⟩] (by decide) (by decide) (by decide)
    (by decide +kernel)

/-- **A clock that goes back.**  A full bucket that was stored at the time 10 is restored, and read
at the time 0: it owes nine tokens. -/
theorem restored_ahead :
    let config : TokenBucketConfig := ⟨1, 1, by norm_num, by norm_num⟩
    let calls : List TimedCall := [⟨.getRemaining, 0⟩]
    (1 ≤ config.capacity ∧ 0 < config.refillRate) ∧
      (∀ s ∈ some (⟨1, 10⟩ : RateLimitState), 0 ≤ s.tokens ∧ s.tokens ≤ config.capacity) ∧
      (calls.Pairwise fun c later => c.now ≤ later.now) ∧
      ((TokenBucket.create config (some ⟨1, 10⟩) 0).run calls).1.tokens = -9 := by
  decide +kernel

end QuadraA.Messaging
