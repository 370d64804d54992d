import QuadraA.Relay.EndorsementIndex
import QuadraA.Lib.Updates

/-!
# The endorsements that a relay accepts

`handleEndorse` of `relay-agent-client-handlers.ts`: the limits for an endorser, the checks of the
fields, the signature, and the write to the index.

* `endorsements_valid` — a stored endorsement is valid exactly when it is typed, and the mean of
  typed scores is between zero and one;
* `nan_score_stored` — a score that no check refuses.

A check refuses what a comparison says yes to, so what is compared as `NaN` passes it, and so does
what is converted to a number or a text that passes.  What is falsy is not checked at all.
-/

namespace QuadraA.Relay

open QuadraA.Lib

/-! ### Failures -/

inductive EndorseError where
  | rateLimit
  | duplicate
  | senderMismatch
  | version
  | score
  | domain
  | expired
  | tooLong
  | signature
  | verification
deriving DecidableEq

def EndorseError.text : EndorseError → String
  | rateLimit => "Rate limit exceeded: 20 endorsements per day"
  | duplicate => "Already endorsed this target+domain within 24h"
  | senderMismatch => "Endorsement from field must match connected DID"
  | version => "Only endorsement version 2 is supported"
  | score => "Score must be between 0 and 1"
  | domain => "Invalid domain format"
  | expired => "Expires must be in the future"
  | tooLong => "Expires cannot be more than 365 days from timestamp"
  | signature => "Invalid endorsement signature"
  | verification => "Failed to verify signature"

/-- A request fails with an answer, or with an exception. -/
inductive EndorseFailure where
  | refused (error : EndorseError)
  | thrown
deriving DecidableEq

/-- What the handler takes from the language and from the signature scheme. -/
structure EndorseServices where
  texts : JsTexts
  computeId : Endorsement → String
  /-- Whether the signature verifies under the key of `from`, over the JSON text of the other
  properties; `none` for an exception. -/
  verify : Endorsement → Option Bool

def dayMs : ℕ := 24 * 60 * 60 * 1000

def yearMs : JsNumber := .finite (365 * 24 * 60 * 60 * 1000)

/-! ### Checks -/

/-- `/^[a-z0-9]+(-[a-z0-9]+)*$/`. -/
def isDomain (text : String) : Bool :=
  (text.toList.splitOn '-').all fun word =>
    !word.isEmpty && word.all fun c => c.isLower || c.isDigit

def orThrow {α : Type} : Option α → Except EndorseFailure α
  | none => .error .thrown
  | some a => .ok a

def refuseIf (refuse : Bool) (error : EndorseError) : Except EndorseFailure Unit :=
  if refuse then .error (.refused error) else .ok ()

/-- `endorsement.from !== did`. -/
def checkSender (did : String) (e : Endorsement) : Except EndorseFailure Unit :=
  match e.sender with
  | .primitive p => refuseIf (decide (p ≠ .string did)) .senderMismatch
  | .object _ => .error (.refused .senderMismatch)

/-- `endorsement.version !== 2`. -/
def checkVersion (e : Endorsement) : Except EndorseFailure Unit :=
  match e.version with
  | .primitive p => refuseIf (decide (p ≠ .number (.finite 2))) .version
  | .object _ => .error (.refused .version)

def checkScore (texts : JsTexts) (e : Endorsement) : Except EndorseFailure Unit := do
  let negative ← orThrow (e.score.isLess texts (.finite 0))
  let large ← orThrow (e.score.isGreater texts (.finite 1))
  refuseIf (negative || large) .score

def checkDomain (texts : JsTexts) (e : Endorsement) : Except EndorseFailure Unit :=
  if e.domain.truthy then do
    let text ← orThrow (e.domain.text texts)
    refuseIf (!isDomain text) .domain
    let length ← orThrow e.domain.length
    refuseIf ((JsNumber.finite 64).lt (length.numeric texts)) .domain
  else .ok ()

def checkExpires (texts : JsTexts) (now : ℕ) (e : Endorsement) : Except EndorseFailure Unit :=
  if e.expires.truthy then do
    let expired ← orThrow (e.expires.isLess texts (.finite now))
    refuseIf expired .expired
    let difference ← orThrow (e.expires.minus texts e.timestamp)
    refuseIf (yearMs.lt (difference.numeric texts)) .tooLong
  else .ok ()

def checkFields (texts : JsTexts) (did : String) (now : ℕ) (e : Endorsement) :
    Except EndorseFailure Unit := do
  checkSender did e
  checkVersion e
  checkScore texts e
  checkDomain texts e
  checkExpires texts now e

/-- The verification, all of whose exceptions are caught. -/
def checkSignature (services : EndorseServices) (e : Endorsement) : Except EndorseFailure Unit :=
  match services.verify e with
  | none => .error (.refused .verification)
  | some valid => refuseIf (!valid) .signature

/-! ### The handler -/

structure RateLimitCounter where
  count : ℕ
  windowStart : ℕ

/-- A verification that is waited for, with the endorser and the time of the request. -/
structure PendingEndorsement where
  did : String
  now : ℕ
  endorsement : Endorsement

structure EndorseState where
  endorseCounters : String → Option RateLimitCounter
  endorseDedup : String → Option ℕ
  pending : ℕ → Option PendingEndorsement
  endorsements : EndorsementIndex

def EndorseState.starting (index : EndorsementIndex) : EndorseState :=
  ⟨fun _ => none, fun _ => none, fun _ => none, index⟩

/-- The counter of the endorser; `none` beyond 20 requests in a day. -/
def EndorseState.count (s : EndorseState) (did : String) (now : ℕ) : Option EndorseState :=
  let fresh : RateLimitCounter := ⟨1, now⟩
  match s.endorseCounters did with
  | none => some { s with endorseCounters := Function.update s.endorseCounters did (some fresh) }
  | some counter =>
      if now < counter.windowStart + dayMs then
        if 20 ≤ counter.count then none
        else
          let next : RateLimitCounter := ⟨counter.count + 1, counter.windowStart⟩
          some { s with endorseCounters := Function.update s.endorseCounters did (some next) }
      else some { s with endorseCounters := Function.update s.endorseCounters did (some fresh) }

/-- `${did}:${endorsement.to}:${endorsement.domain ?? '*'}`. -/
def dedupKey (texts : JsTexts) (did : String) (e : Endorsement) : Option String :=
  (e.target.text texts).bind fun target =>
    (match e.domain with
      | .primitive .undefined | .primitive .null => some "*"
      | domain => domain.text texts).map fun domain => did ++ ":" ++ target ++ ":" ++ domain

/-- Whether the target was endorsed within a day. -/
def EndorseState.isDuplicate (s : EndorseState) (key : String) (now : ℕ) : Bool :=
  match s.endorseDedup key with
  | none => false
  | some lastEndorse => decide (lastEndorse ≠ 0) && decide (now < lastEndorse + dayMs)

/-- **What is done at once.**  A message without an endorsement is `none`. -/
def beginEndorse (services : EndorseServices) (s : EndorseState) (did : String) (now : ℕ)
    (endorsement : Option Endorsement) : EndorseState × Except EndorseFailure Endorsement :=
  match s.count did now with
  | none => (s, .error (.refused .rateLimit))
  | some s =>
      match endorsement with
      | none => (s, .error .thrown)
      | some e =>
          match dedupKey services.texts did e with
          | none => (s, .error .thrown)
          | some key =>
              if s.isDuplicate key now then (s, .error (.refused .duplicate))
              else
                ({ s with endorseDedup := Function.update s.endorseDedup key (some now) },
                  (checkFields services.texts did now e).map fun _ => e)

def EndorseState.setPending (s : EndorseState) (task : ℕ) (pending : Option PendingEndorsement) :
    EndorseState :=
  { s with pending := Function.update s.pending task pending }

inductive EndorseEvent where
  | received (task : ℕ) (did : String) (now : ℕ) (endorsement : Option Endorsement)
  | refused (task : ℕ)
  | stored (task : ℕ) (did : String) (now : ℕ) (endorsement : Endorsement) (storedAt : ℕ)
  | bootstrapped (endorsement : Endorsement) (storedAt : ℕ)

/-- **One step.**  A request is begun, its verification ends, or the relay endorses an agent that
joins. -/
inductive EndorseStep (services : EndorseServices) :
    EndorseState → EndorseEvent → EndorseState → Prop
  | refusedAtOnce {s s' : EndorseState} {task : ℕ} {did : String} {now : ℕ}
      {endorsement : Option Endorsement} {failure : EndorseFailure} :
      beginEndorse services s did now endorsement = (s', .error failure) →
      EndorseStep services s (.received task did now endorsement) s'
  | verifying {s s' : EndorseState} {task : ℕ} {did : String} {now : ℕ} {e : Endorsement} :
      s.pending task = none →
      beginEndorse services s did now (some e) = (s', .ok e) →
      EndorseStep services s (.received task did now (some e))
        (s'.setPending task (some ⟨did, now, e⟩))
  | refused {s : EndorseState} {task : ℕ} {p : PendingEndorsement} {failure : EndorseFailure} :
      s.pending task = some p →
      checkSignature services p.endorsement = .error failure →
      EndorseStep services s (.refused task) (s.setPending task none)
  -- `store` throws before it changes the index
  | notStored {s : EndorseState} {task storedAt : ℕ} {p : PendingEndorsement} :
      s.pending task = some p →
      checkSignature services p.endorsement = .ok () →
      s.endorsements.store services.texts services.computeId p.endorsement storedAt = none →
      EndorseStep services s (.refused task) (s.setPending task none)
  | stored {s : EndorseState} {task storedAt : ℕ} {p : PendingEndorsement}
      {index : EndorsementIndex} :
      s.pending task = some p →
      checkSignature services p.endorsement = .ok () →
      s.endorsements.store services.texts services.computeId p.endorsement storedAt = some index →
      EndorseStep services s (.stored task p.did p.now p.endorsement storedAt)
        { s.setPending task none with endorsements := index }
  -- the endorsement of the relay itself, whose score is 0.3
  | bootstrapped {s : EndorseState} {e : Endorsement} {storedAt : ℕ} {index : EndorsementIndex} :
      e.score = .number (JsNumber.ofRat (3 / 10)) →
      s.endorsements.store services.texts services.computeId e storedAt = some index →
      EndorseStep services s (.bootstrapped e storedAt) { s with endorsements := index }

inductive EndorseRun (services : EndorseServices) (start : EndorseState) :
    List EndorseEvent → EndorseState → Prop
  | nil : EndorseRun services start [] start
  | snoc {events : List EndorseEvent} {event : EndorseEvent} {s s' : EndorseState} :
      EndorseRun services start events s → EndorseStep services s event s' →
      EndorseRun services start (events ++ [event]) s'

/-! ### Valid endorsements -/

/-- **What an endorsement in the index is to be**, for a request of `did` at a time. -/
structure ValidEndorsement (services : EndorseServices) (did : String) (now : ℕ)
    (e : Endorsement) : Prop where
  sender : e.sender = .string did
  version : e.version = .number (.finite 2)
  score : e.ScoreWithin
  domain : e.domain = .undefined ∨
    ∃ text, e.domain = .string text ∧ isDomain text = true ∧ text.length ≤ 64
  expires : e.expires = .undefined ∨ ∃ expires timestamp, e.expires = .number expires ∧
    e.timestamp = .number timestamp ∧ (JsNumber.finite now).lt expires = true ∧
    (expires.sub timestamp).le yearMs = true
  signature : services.verify e = some true

/-- **The fields have the types that the checks take for granted.** -/
structure TypedEndorsement (now : ℕ) (e : Endorsement) : Prop where
  score : ∃ x, e.score = .number x ∧ x ≠ .nan
  domain : e.domain = .undefined ∨ ∃ text, e.domain = .string text ∧ text ≠ ""
  expires : e.expires = .undefined ∨ ∃ expires timestamp, e.expires = .number expires ∧
    e.timestamp = .number timestamp ∧ expires ≠ .finite 0 ∧ expires ≠ .finite now ∧
    expires.sub timestamp ≠ .nan

section

variable {services : EndorseServices} {texts : JsTexts} {did : String} {now : ℕ} {e : Endorsement}

theorem refuseIf_eq_ok {refuse : Bool} {error : EndorseError} :
    refuseIf refuse error = .ok () ↔ refuse = false := by
  cases refuse
  · exact ⟨fun _ => rfl, fun _ => rfl⟩
  · exact ⟨nofun, nofun⟩

theorem sender_of_check (h : checkSender did e = .ok ()) : e.sender = .string did := by
  rw [checkSender] at h
  split at h
  · rename_i p hsender
    have hp := refuseIf_eq_ok.mp h
    rw [decide_eq_false_iff_not, not_not] at hp
    rw [hsender, hp]
    rfl
  · cases h

theorem version_of_check (h : checkVersion e = .ok ()) : e.version = .number (.finite 2) := by
  rw [checkVersion] at h
  split at h
  · rename_i p hversion
    have hp := refuseIf_eq_ok.mp h
    rw [decide_eq_false_iff_not, not_not] at hp
    rw [hversion, hp]
    rfl
  · cases h

/-- A score that passes is not compared as a number outside the range. -/
theorem score_of_check (h : checkScore texts e = .ok ()) :
    ∃ p, e.score.toPrimitive = some p ∧ (p.numeric texts).lt (.finite 0) = false ∧
      (JsNumber.finite 1).lt (p.numeric texts) = false := by
  rw [checkScore] at h
  cases hscore : e.score.toPrimitive with
  | none =>
    rw [JsValue.isLess, hscore] at h
    cases h
  | some p =>
    rw [JsValue.isLess, JsValue.isGreater, hscore] at h
    have hp : ((p.numeric texts).lt (.finite 0) || (JsNumber.finite 1).lt (p.numeric texts))
        = false := refuseIf_eq_ok.mp h
    rw [Bool.or_eq_false_iff] at hp
    exact ⟨p, rfl, hp⟩

/-- **A score that passes is between zero and one exactly when it is a number** and not `NaN`. -/
theorem scoreWithin_iff (h : checkScore texts e = .ok ()) :
    e.ScoreWithin ↔ ∃ x, e.score = .number x ∧ x ≠ .nan := by
  constructor
  · rintro ⟨x, hscore, q, rfl, _⟩
    exact ⟨_, hscore, nofun⟩
  · rintro ⟨x, hscore, hnan⟩
    obtain ⟨p, hp, hlow, hhigh⟩ := score_of_check h
    rw [hscore] at hp
    obtain rfl := Option.some.inj hp
    refine ⟨x, hscore, ?_⟩
    replace hlow : x.lt (.finite 0) = false := hlow
    replace hhigh : (JsNumber.finite 1).lt x = false := hhigh
    cases x with
    | nan => exact absurd rfl hnan
    | infinity negative => cases negative <;> simp [JsNumber.lt] at hlow hhigh
    | finite q =>
      refine ⟨q, rfl, ?_, ?_⟩
      · simpa [JsNumber.lt] using hlow
      · simpa [JsNumber.lt] using hhigh

/-- A domain that passes is falsy, or is taken for a text of the pattern. -/
theorem domain_of_check (h : checkDomain texts e = .ok ()) (htruthy : e.domain.truthy = true) :
    ∃ text length, e.domain.text texts = some text ∧ isDomain text = true ∧
      e.domain.length = some length ∧ (JsNumber.finite 64).lt (length.numeric texts) = false := by
  rw [checkDomain, if_pos htruthy] at h
  cases htext : e.domain.text texts with
  | none =>
    rw [htext] at h
    cases h
  | some text =>
    rw [htext] at h
    cases hpattern : isDomain text with
    | false =>
      replace h : (do
        refuseIf (!isDomain text) .domain
        let length ← orThrow e.domain.length
        refuseIf ((JsNumber.finite 64).lt (length.numeric texts)) .domain) = .ok () := h
      rw [hpattern] at h
      cases h
    | true =>
      replace h : (do
        refuseIf (!isDomain text) .domain
        let length ← orThrow e.domain.length
        refuseIf ((JsNumber.finite 64).lt (length.numeric texts)) .domain) = .ok () := h
      rw [hpattern] at h
      cases hlength : e.domain.length with
      | none =>
        rw [hlength] at h
        cases h
      | some length =>
        rw [hlength] at h
        exact ⟨text, length, rfl, hpattern, rfl, refuseIf_eq_ok.mp h⟩

/-- **A domain that passes is valid exactly when it is absent or a text** that is not empty. -/
theorem domain_iff (h : checkDomain texts e = .ok ()) :
    (e.domain = .undefined ∨
      ∃ text, e.domain = .string text ∧ isDomain text = true ∧ text.length ≤ 64) ↔
    (e.domain = .undefined ∨ ∃ text, e.domain = .string text ∧ text ≠ "") := by
  constructor
  · rintro (habsent | ⟨text, htext, hpattern, _⟩)
    · exact Or.inl habsent
    · refine Or.inr ⟨text, htext, ?_⟩
      rintro rfl
      exact absurd hpattern (by decide)
  · rintro (habsent | ⟨text, htext, hempty⟩)
    · exact Or.inl habsent
    · have htruthy : e.domain.truthy = true := by
        rw [htext]
        exact decide_eq_true hempty
      obtain ⟨text', length, htext', hpattern, hlength, hlong⟩ := domain_of_check h htruthy
      rw [htext] at htext' hlength
      obtain rfl := Option.some.inj htext'
      obtain rfl := Option.some.inj hlength
      refine Or.inr ⟨text, htext, hpattern, ?_⟩
      replace hlong : (JsNumber.finite 64).lt (.finite text.length) = false := hlong
      have hle : (text.length : ℚ) ≤ 64 := by simpa [JsNumber.lt] using hlong
      exact_mod_cast hle

/-- An expiry that passes is falsy, or is not compared as a number out of its bounds. -/
theorem expires_of_check (h : checkExpires texts now e = .ok ())
    (htruthy : e.expires.truthy = true) :
    ∃ p difference, e.expires.toPrimitive = some p ∧
      (p.numeric texts).lt (.finite now) = false ∧
      e.expires.minus texts e.timestamp = some difference ∧
      yearMs.lt (difference.numeric texts) = false := by
  rw [checkExpires, if_pos htruthy] at h
  cases hp : e.expires.toPrimitive with
  | none =>
    rw [JsValue.isLess, hp] at h
    cases h
  | some p =>
    rw [JsValue.isLess, hp] at h
    replace h : (do
      refuseIf ((p.numeric texts).lt (.finite now)) .expired
      let difference ← orThrow (e.expires.minus texts e.timestamp)
      refuseIf (yearMs.lt (difference.numeric texts)) .tooLong) = .ok () := h
    cases hpast : (p.numeric texts).lt (.finite now) with
    | true =>
      rw [hpast] at h
      cases h
    | false =>
      rw [hpast] at h
      cases hminus : e.expires.minus texts e.timestamp with
      | none =>
        rw [hminus] at h
        cases h
      | some difference =>
        rw [hminus] at h
        exact ⟨p, difference, rfl, hpast, rfl, refuseIf_eq_ok.mp h⟩

/-- **An expiry that passes is valid exactly when it is absent, or a number** other than zero and
now, with a difference to the timestamp that is a number. -/
theorem expires_iff (h : checkExpires texts now e = .ok ()) :
    (e.expires = .undefined ∨ ∃ expires timestamp, e.expires = .number expires ∧
      e.timestamp = .number timestamp ∧ (JsNumber.finite now).lt expires = true ∧
      (expires.sub timestamp).le yearMs = true) ↔
    (e.expires = .undefined ∨ ∃ expires timestamp, e.expires = .number expires ∧
      e.timestamp = .number timestamp ∧ expires ≠ .finite 0 ∧ expires ≠ .finite now ∧
      expires.sub timestamp ≠ .nan) := by
  constructor
  · rintro (habsent | ⟨expires, timestamp, hexpires, htimestamp, hfuture, hyear⟩)
    · exact Or.inl habsent
    · refine Or.inr ⟨expires, timestamp, hexpires, htimestamp, ?_, ?_, ?_⟩
      · rintro rfl
        have hneg : (now : ℚ) < 0 := by simpa [JsNumber.lt] using hfuture
        exact absurd hneg (not_lt.mpr (Nat.cast_nonneg now))
      · rintro rfl
        simp [JsNumber.lt] at hfuture
      · intro hnan
        rw [hnan] at hyear
        cases hyear
  · rintro (habsent | ⟨expires, timestamp, hexpires, htimestamp, hzero, hnow, hnan⟩)
    · exact Or.inl habsent
    · have hnumber : expires ≠ .nan := by
        rintro rfl
        exact hnan (JsNumber.nan_sub timestamp)
      have htruthy : e.expires.truthy = true := by
        rw [hexpires]
        exact Bool.and_eq_true_iff.mpr ⟨decide_eq_true hnumber, decide_eq_true hzero⟩
      obtain ⟨p, difference, hp, hpast, hminus, hyear⟩ := expires_of_check h htruthy
      rw [hexpires] at hp
      obtain rfl := Option.some.inj hp
      rw [hexpires, htimestamp] at hminus
      obtain rfl := Option.some.inj hminus
      refine Or.inr ⟨expires, timestamp, hexpires, htimestamp, ?_,
        JsNumber.le_of_not_lt hnan (by rintro ⟨⟩) hyear⟩
      have hle := @JsNumber.le_of_not_lt (.finite now) expires (by rintro ⟨⟩) hnumber hpast
      rw [JsNumber.le, Bool.or_eq_true] at hle
      rcases hle with hlt | heq
      · exact hlt
      · rw [Bool.and_eq_true, decide_eq_true_eq] at heq
        exact absurd heq.1.symm hnow

/-- The checks of the fields, one by one. -/
theorem checks_of_fields (h : checkFields texts did now e = .ok ()) :
    checkSender did e = .ok () ∧ checkVersion e = .ok () ∧ checkScore texts e = .ok () ∧
      checkDomain texts e = .ok () ∧ checkExpires texts now e = .ok () := by
  rw [checkFields] at h
  cases hsender : checkSender did e with
  | error failure => rw [hsender] at h; cases h
  | ok _ =>
    cases hversion : checkVersion e with
    | error failure => rw [hsender, hversion] at h; cases h
    | ok _ =>
      cases hscore : checkScore texts e with
      | error failure => rw [hsender, hversion, hscore] at h; cases h
      | ok _ =>
        cases hdomain : checkDomain texts e with
        | error failure => rw [hsender, hversion, hscore, hdomain] at h; cases h
        | ok _ =>
          rw [hsender, hversion, hscore, hdomain] at h
          exact ⟨rfl, rfl, rfl, rfl, h⟩

/-- **An endorsement that passes all checks is valid exactly when it is typed.** -/
theorem valid_iff (hfields : checkFields services.texts did now e = .ok ())
    (hsignature : services.verify e = some true) :
    ValidEndorsement services did now e ↔ TypedEndorsement now e := by
  obtain ⟨hsender, hversion, hscore, hdomain, hexpires⟩ := checks_of_fields hfields
  constructor
  · intro h
    exact ⟨(scoreWithin_iff hscore).mp h.score, (domain_iff hdomain).mp h.domain,
      (expires_iff hexpires).mp h.expires⟩
  · intro h
    exact ⟨sender_of_check hsender, version_of_check hversion, (scoreWithin_iff hscore).mpr h.score,
      (domain_iff hdomain).mpr h.domain, (expires_iff hexpires).mpr h.expires, hsignature⟩

end

/-! ### Runs -/

section

variable {services : EndorseServices} {s s' : EndorseState} {event : EndorseEvent}
  {events : List EndorseEvent} {index : EndorsementIndex} {did : String} {now : ℕ}
  {e : Endorsement}

theorem count_fields (h : s.count did now = some s') :
    s'.pending = s.pending ∧ s'.endorsements = s.endorsements := by
  rw [EndorseState.count] at h
  split at h
  · obtain rfl := Option.some.inj h
    exact ⟨rfl, rfl⟩
  · split at h
    · split at h
      · cases h
      · obtain rfl := Option.some.inj h
        exact ⟨rfl, rfl⟩
    · obtain rfl := Option.some.inj h
      exact ⟨rfl, rfl⟩

/-- What is done at once changes neither the index nor what is waited for. -/
theorem beginEndorse_fields (services : EndorseServices) (s : EndorseState) (did : String) (now : ℕ)
    (endorsement : Option Endorsement) :
    (beginEndorse services s did now endorsement).1.pending = s.pending ∧
      (beginEndorse services s did now endorsement).1.endorsements = s.endorsements := by
  rw [beginEndorse]
  split
  · exact ⟨rfl, rfl⟩
  · rename_i counted hcount
    have hfields := count_fields hcount
    split
    · exact hfields
    · split
      · exact hfields
      · split <;> exact hfields

/-- A request that is begun has passed the checks of the fields. -/
theorem checkFields_of_begin (h : beginEndorse services s did now (some e) = (s', .ok e)) :
    checkFields services.texts did now e = .ok () := by
  rw [beginEndorse] at h
  split at h
  · cases h
  · dsimp only at h
    split at h
    · cases h
    · split at h
      · cases h
      · cases hfields : checkFields services.texts did now e with
        | error failure =>
          rw [hfields] at h
          cases h
        | ok _ => rfl

/-- **What is waited for has passed the checks of the fields.** -/
def Checked (services : EndorseServices) (s : EndorseState) : Prop :=
  ∀ task p, s.pending task = some p →
    checkFields services.texts p.did p.now p.endorsement = .ok ()

theorem Checked.setPending (h : Checked services s) (task : ℕ) (pending : Option PendingEndorsement)
    (hpending : ∀ p, pending = some p →
      checkFields services.texts p.did p.now p.endorsement = .ok ()) :
    Checked services (s.setPending task pending) := by
  intro task' p hp
  rw [EndorseState.setPending] at hp
  dsimp only at hp
  rcases update_apply_eq_iff.mp hp with ⟨rfl, hwritten⟩ | ⟨_, hp⟩
  · exact hpending p hwritten
  · exact h task' p hp

theorem Checked.endPending (h : Checked services s) (task : ℕ) :
    Checked services (s.setPending task none) := by
  refine h.setPending task none fun p hp => ?_
  cases hp

theorem Checked.step (h : Checked services s) (hstep : EndorseStep services s event s') :
    Checked services s' := by
  cases hstep with
  | @refusedAtOnce _ _ did now endorsement _ hbegin =>
    have hfields := (beginEndorse_fields services s did now endorsement).1
    rw [hbegin] at hfields
    intro task p hp
    exact h task p (hfields ▸ hp)
  | @verifying begun task did now e _ hbegin =>
    have hfields := (beginEndorse_fields services s did now (some e)).1
    rw [hbegin] at hfields
    have hbegun : Checked services begun := fun task p hp => h task p (hfields ▸ hp)
    refine hbegun.setPending task _ fun p hp => ?_
    obtain rfl := Option.some.inj hp
    exact checkFields_of_begin hbegin
  | refused _ _ => exact h.endPending _
  | notStored _ _ _ => exact h.endPending _
  | @stored task storedAt p index hp _ hstore =>
    intro task' p' hp'
    exact h.endPending task task' p' hp'
  | bootstrapped _ _ => exact h

theorem Checked.run (hrun : EndorseRun services (.starting index) events s) : Checked services s := by
  induction hrun with
  | nil =>
    intro task p hp
    cases hp
  | snoc _ hstep ih => exact ih.step hstep

/-- A stored endorsement has passed all checks. -/
theorem passed_of_stored (hrun : EndorseRun services (.starting index) events s)
    {task storedAt : ℕ} (hmem : .stored task did now e storedAt ∈ events) :
    checkFields services.texts did now e = .ok () ∧ services.verify e = some true := by
  induction hrun with
  | nil => cases hmem
  | @snoc events event s s' hrun hstep ih =>
    rcases List.mem_append.mp hmem with hmem | hmem
    · exact ih hmem
    · rw [List.mem_singleton] at hmem
      subst hmem
      cases hstep with
      | stored hp hsignature _ =>
        refine ⟨Checked.run hrun _ _ hp, ?_⟩
        rw [checkSignature] at hsignature
        split at hsignature
        · cases hsignature
        · rename_i valid hverify
          have hvalid := refuseIf_eq_ok.mp hsignature
          rw [Bool.not_eq_false'] at hvalid
          rw [hverify, hvalid]

/-- The score that the relay gives itself. -/
theorem within_bootstrap : Within (JsNumber.ofRat (3 / 10)) := by
  obtain ⟨r, hr, hr0, hr1⟩ := @JsNumber.divCount_between 3 10 (by norm_num) (by norm_num)
  have hthree : (JsNumber.finite 3).divCount 10 = JsNumber.ofRat (3 / 10) := by
    rw [JsNumber.divCount, Nat.cast_ofNat]
  exact ⟨r, hthree.symm.trans hr, hr0, hr1⟩

theorem inRange_run (hindex : index.InRange)
    (hrun : EndorseRun services (.starting index) events s)
    (htyped : ∀ task did now e storedAt, .stored task did now e storedAt ∈ events →
      TypedEndorsement now e) : s.endorsements.InRange := by
  induction hrun with
  | nil => exact hindex
  | @snoc events event s s' hrun hstep ih =>
    have hbefore := ih fun task did now e storedAt hmem =>
      htyped task did now e storedAt (List.mem_append_left _ hmem)
    cases hstep with
    | @refusedAtOnce _ _ did now endorsement _ hbegin =>
      have hfields := (beginEndorse_fields services s did now endorsement).2
      rw [hbegin] at hfields
      exact hfields ▸ hbefore
    | @verifying begun task did now e _ hbegin =>
      have hfields := (beginEndorse_fields services s did now (some e)).2
      rw [hbegin] at hfields
      exact hfields ▸ hbefore
    | refused _ _ => exact hbefore
    | notStored _ _ _ => exact hbefore
    | @stored task storedAt p index hp hsignature hstore =>
      have hmem : .stored task p.did p.now p.endorsement storedAt ∈
          events ++ [.stored task p.did p.now p.endorsement storedAt] :=
        List.mem_append_right _ (List.mem_singleton_self _)
      have hpassed := passed_of_stored (hrun.snoc (.stored hp hsignature hstore)) hmem
      have hvalid := (valid_iff hpassed.1 hpassed.2).mpr (htyped _ _ _ _ _ hmem)
      exact hbefore.store hvalid.score hstore
    | bootstrapped hscore hstore => exact hbefore.store ⟨_, hscore, within_bootstrap⟩ hstore

end

/-- **Stored endorsements are valid exactly when they are typed**, in every run; and after every run
in which they are, from an index in range, a query reports a mean between zero and one. -/
theorem endorsements_valid (services : EndorseServices) :
    (∀ index events s, EndorseRun services (.starting index) events s →
      ∀ task did now e storedAt, .stored task did now e storedAt ∈ events →
        (ValidEndorsement services did now e ↔ TypedEndorsement now e)) ∧
    ∀ index events s, index.InRange → EndorseRun services (.starting index) events s →
      (∀ task did now e storedAt, .stored task did now e storedAt ∈ events →
        TypedEndorsement now e) →
      ∀ sort query now result,
        s.endorsements.query services.texts sort query now = some result →
          Within result.averageScore := by
  refine ⟨fun index events s hrun task did now e storedAt hmem => ?_,
    fun index events s hindex hrun htyped sort query now result hquery => ?_⟩
  · obtain ⟨hfields, hsignature⟩ := passed_of_stored hrun hmem
    exact valid_iff hfields hsignature
  · exact (inRange_run hindex hrun htyped).query hquery

/-! ### One endorsement -/

/-- Services that verify every signature. -/
def sampleServices : EndorseServices where
  texts := ⟨fun _ => .nan, fun _ => "0"⟩
  computeId := fun _ => "id"
  verify := fun _ => some true

def sampleEndorsement (score : JsNumber) : Endorsement where
  version := .number (.finite 2)
  sender := .string "did:agent:zAlice"
  target := .string "did:agent:zBob"
  score := .number score
  domain := .undefined
  reason := .string "reliable"
  timestamp := .number (.finite 1000)
  expires := .undefined
  signature := .string "00"
  others := []

/-- The sort of an engine that finds the endorsements in order. -/
def sortedAlready : TimestampSort where
  sort := some
  perm h := by rw [Option.some.inj h]

def storedSample (score : JsNumber) : StoredEndorsement :=
  { sampleEndorsement score with id := "id", storedAt := 2000 }

/-- The index with the one endorsement. -/
def sampleIndex (score : JsNumber) : EndorsementIndex where
  byTarget := Record.empty.set (.primitive (.string "did:agent:zBob"))
    (Record.empty.set "did:agent:zAlice:*" (storedSample score))
  byId := Record.empty.set "id" (storedSample score)

/-- **A score that passes is stored.** -/
theorem stored_run {score : JsNumber}
    (hscore : checkScore sampleServices.texts (sampleEndorsement score) = .ok ()) :
    ∃ s, EndorseRun sampleServices (.starting .empty)
        [.received 0 "did:agent:zAlice" 1000 (some (sampleEndorsement score)),
          .stored 0 "did:agent:zAlice" 1000 (sampleEndorsement score) 2000] s ∧
      s.endorsements = sampleIndex score := by
  have hfields : checkFields sampleServices.texts "did:agent:zAlice" 1000 (sampleEndorsement score)
      = .ok () := by
    rw [checkFields, hscore]
    rfl
  have hbegin : beginEndorse sampleServices (.starting .empty) "did:agent:zAlice" 1000
      (some (sampleEndorsement score))
      = (_, (checkFields sampleServices.texts "did:agent:zAlice" 1000
          (sampleEndorsement score)).map fun _ => sampleEndorsement score) := rfl
  rw [hfields] at hbegin
  have hstore : EndorsementIndex.empty.store sampleServices.texts sampleServices.computeId
      (sampleEndorsement score) 2000 = some (sampleIndex score) := rfl
  have hreceived := EndorseRun.nil.snoc (@EndorseStep.verifying _ _ _ 0 _ _ _ rfl hbegin)
  exact ⟨_, hreceived.snoc (@EndorseStep.stored _ _ 0 2000
    ⟨"did:agent:zAlice", 1000, sampleEndorsement score⟩ (sampleIndex score) rfl rfl hstore), rfl⟩

def bobQuery : EndorsementQuery := ⟨"did:agent:zBob", none, none, 100⟩

theorem query_sampleIndex (score : JsNumber) :
    (sampleIndex score).query sampleServices.texts sortedAlready bobQuery 3000
      = some ⟨[storedSample score], 1, ((JsNumber.finite 0).add score).divCount 1⟩ := rfl

/-- A score of a half is valid, and so is the mean. -/
theorem endorsements_valid_sample :
    ∃ s result, EndorseRun sampleServices (.starting .empty)
        [.received 0 "did:agent:zAlice" 1000 (some (sampleEndorsement (.finite (1 / 2)))),
          .stored 0 "did:agent:zAlice" 1000 (sampleEndorsement (.finite (1 / 2))) 2000] s ∧
      ValidEndorsement sampleServices "did:agent:zAlice" 1000
        (sampleEndorsement (.finite (1 / 2))) ∧
      s.endorsements.query sampleServices.texts sortedAlready bobQuery 3000 = some result ∧
      Within result.averageScore := by
  have hscore : checkScore sampleServices.texts (sampleEndorsement (.finite (1 / 2))) = .ok () := by
    have hlow : (JsNumber.finite (1 / 2)).lt (.finite 0) = false := decide_eq_false (by norm_num)
    have hhigh : (JsNumber.finite 1).lt (.finite (1 / 2)) = false :=
      decide_eq_false (by norm_num)
    show refuseIf ((JsNumber.finite (1 / 2)).lt (.finite 0) ||
      (JsNumber.finite 1).lt (.finite (1 / 2))) .score = .ok ()
    rw [hlow, hhigh]
    rfl
  have htyped : TypedEndorsement 1000 (sampleEndorsement (.finite (1 / 2))) :=
    ⟨⟨_, rfl, nofun⟩, Or.inl rfl, Or.inl rfl⟩
  obtain ⟨s, hrun, hindex⟩ := stored_run hscore
  have hquery := query_sampleIndex (.finite (1 / 2))
  rw [← hindex] at hquery
  refine ⟨s, _, hrun, ?_, hquery, ?_⟩
  · exact ((endorsements_valid sampleServices).1 _ _ _ hrun 0 _ _ _ 2000
      (List.mem_cons_of_mem _ (List.mem_singleton_self _))).mpr htyped
  · refine (endorsements_valid sampleServices).2 _ _ _ inRange_empty hrun
      (fun task did now e storedAt hmem => ?_) _ _ _ _ hquery
    rcases List.mem_cons.mp hmem with hevent | hmem
    · cases hevent
    · cases List.mem_singleton.mp hmem
      exact htyped

/-- **`NaN` is stored as a score**, and is what a query then reports. -/
theorem nan_score_stored :
    ∃ s result, EndorseRun sampleServices (.starting .empty)
        [.received 0 "did:agent:zAlice" 1000 (some (sampleEndorsement .nan)),
          .stored 0 "did:agent:zAlice" 1000 (sampleEndorsement .nan) 2000] s ∧
      ¬ValidEndorsement sampleServices "did:agent:zAlice" 1000 (sampleEndorsement .nan) ∧
      s.endorsements.query sampleServices.texts sortedAlready bobQuery 3000 = some result ∧
      ¬Within result.averageScore := by
  obtain ⟨s, hrun, hindex⟩ := @stored_run .nan rfl
  have hquery := query_sampleIndex .nan
  rw [← hindex] at hquery
  refine ⟨s, _, hrun, fun hvalid => ?_, hquery, ?_⟩
  · obtain ⟨x, hx, q, rfl, _⟩ := hvalid.score
    cases hx
  · rintro ⟨q, hq, _⟩
    cases hq

end QuadraA.Relay
